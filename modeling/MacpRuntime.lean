import MacpRuntime.Handoff.Deadline
import MacpRuntime.Handoff.Ttl
import MacpRuntime.Http.ParseJson
import MacpRuntime.MultiRound.Payload
import MacpRuntime.Policy.Equality
import MacpRuntime.Policy.Observers
import MacpRuntime.Proposal.Record
import MacpRuntime.Quorum.Reachability
import MacpRuntime.Receipt.Build
import MacpRuntime.Receipt.Unambiguous
import MacpRuntime.Server.Cleanup
import MacpRuntime.Server.Discipline
import MacpRuntime.Server.Listing
import MacpRuntime.Server.Maintenance
import MacpRuntime.Server.ModeRegistry
import MacpRuntime.Server.Publish
import MacpRuntime.Server.Quota
import MacpRuntime.Server.RateLimit
import MacpRuntime.Server.RegistryEdits
import MacpRuntime.Server.Stream
import MacpRuntime.Storage.RocksDb
import MacpRuntime.WhatIf.Faithful
