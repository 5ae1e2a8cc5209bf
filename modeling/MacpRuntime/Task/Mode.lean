import MacpRuntime.Lib.JsonCodec
import MacpRuntime.Modes.Stateful
import MacpRuntime.Policy.Evaluator

/-!
The task mode (`macp-modes/src/mode/task.rs`): the initiator requests one task, an assignee accepts
it, reports progress and then one terminal result, and a commitment binds it.  The progress of an
update is a double, and `State.reread` says what is read back of it.
-/

namespace MacpRuntime.Task

open JsonCodec (string bool int64 byte fromJson_toJson optionString)

/-! ### The mode state -/

/-- The task. -/
structure TaskRecord where
  taskId : String
  title : String
  instructions : String
  requestedAssignee : String
  input : Bytes
  deadlineUnixMs : Int64
  requester : String
  deriving DecidableEq, Repr

/-- A rejection of the task. -/
structure TaskRejectRecord where
  taskId : String
  assignee : String
  reason : String
  whileAssigned : Bool
  deriving DecidableEq, Repr

/-- A report of progress. -/
structure TaskUpdateRecord where
  taskId : String
  status : String
  progress : Float
  message : String
  partialOutput : Bytes
  sender : String

/-- The report of a completion. -/
structure TaskCompleteRecord where
  taskId : String
  assignee : String
  output : Bytes
  summary : String
  deriving DecidableEq, Repr

/-- The report of a failure. -/
structure TaskFailRecord where
  taskId : String
  assignee : String
  errorCode : String
  reason : String
  retryable : Bool
  deriving DecidableEq, Repr

/-- The report that ends the work. -/
inductive TaskTerminalReport where
  | Complete (record : TaskCompleteRecord)
  | Fail (record : TaskFailRecord)
  deriving DecidableEq, Repr

/-- Who filed the report. -/
def TaskTerminalReport.author : TaskTerminalReport → String
  | .Complete record => record.assignee
  | .Fail record => record.assignee

/-- The whole mode state. -/
structure State where
  task : Option TaskRecord
  activeAssignee : Option String
  rejections : List TaskRejectRecord
  updates : List TaskUpdateRecord
  terminalReport : Option TaskTerminalReport

/-- No task yet. -/
def State.default : State := ⟨none, none, [], [], none⟩

/-! ### The serialized state -/

namespace Codec

/-- A task. -/
def task : JsonCodec TaskRecord :=
  .record TaskRecord.mk <|
    .field "task_id" string (·.taskId) <|
    .field "title" string (·.title) <|
    .field "instructions" string (·.instructions) <|
    .field "requested_assignee" string (·.requestedAssignee) <|
    .field "input" byte.list (·.input) <|
    .field "deadline_unix_ms" int64 (·.deadlineUnixMs) <|
    .field "requester" string (·.requester) .nil

/-- A task or `null`. -/
def optionalTask : JsonCodec (Option TaskRecord) := task.option fun _ h => Json.noConfusion h

/-- A rejection; its last member was added later and may be absent. -/
def reject : JsonCodec TaskRejectRecord :=
  .record TaskRejectRecord.mk <|
    .field "task_id" string (·.taskId) <|
    .field "assignee" string (·.assignee) <|
    .field "reason" string (·.reason) <|
    .fieldOr "while_assigned" bool false (·.whileAssigned) .nil

/-- A completion. -/
def complete : JsonCodec TaskCompleteRecord :=
  .record TaskCompleteRecord.mk <|
    .field "task_id" string (·.taskId) <|
    .field "assignee" string (·.assignee) <|
    .field "output" byte.list (·.output) <|
    .field "summary" string (·.summary) .nil

/-- A failure. -/
def fail : JsonCodec TaskFailRecord :=
  .record TaskFailRecord.mk <|
    .field "task_id" string (·.taskId) <|
    .field "assignee" string (·.assignee) <|
    .field "error_code" string (·.errorCode) <|
    .field "reason" string (·.reason) <|
    .field "retryable" bool (·.retryable) .nil

/-- A report is tagged with its variant. -/
def report : JsonCodec TaskTerminalReport where
  toJson
    | .Complete record => .object [("Complete", complete.toJson record)]
    | .Fail record => .object [("Fail", fail.toJson record)]
  fromJson
    | .object [(tag, v)] =>
      if tag = "Complete" then (complete.fromJson v).map .Complete
      else if tag = "Fail" then (fail.fromJson v).map .Fail
      else none
    | _ => none
  fromJson_toJson x := by
    cases x <;> simp [fromJson_toJson]
  literal x := by
    cases x with
    | Complete record => exact ⟨trivial, complete.literal record, trivial⟩
    | Fail record => exact ⟨trivial, fail.literal record, trivial⟩

/-- A report or `null`. -/
def optionalReport : JsonCodec (Option TaskTerminalReport) :=
  report.option fun x h => by cases x <;> cases h

section Floats

variable (texts : FloatText)

/-- An update. -/
def update : JsonForm TaskUpdateRecord :=
  .record TaskUpdateRecord.mk <|
    .field "task_id" string (·.taskId) <|
    .field "status" string (·.status) <|
    .form "progress" ⟨texts.toJson, texts.fromJson, texts.literal_toJson⟩ none (·.progress) <|
    .field "message" string (·.message) <|
    .field "partial_output" byte.list (·.partialOutput) <|
    .field "sender" string (·.sender) .nil

/-- The whole state. -/
def state : JsonForm State :=
  .record State.mk <|
    .fieldOr "task" optionalTask none (·.task) <|
    .fieldOr "active_assignee" optionString none (·.activeAssignee) <|
    .field "rejections" reject.list (·.rejections) <|
    .form "updates" (update texts).list none (·.updates) <|
    .fieldOr "terminal_report" optionalReport none (·.terminalReport) .nil

end Floats

end Codec

/-- What is read back of an update: its progress may change, or not be readable at all. -/
def TaskUpdateRecord.reread (texts : FloatText) (u : TaskUpdateRecord) : Option TaskUpdateRecord :=
  (texts.fromJson (texts.toJson u.progress)).map fun progress => { u with progress := progress }

/-- What is read back of a state. -/
def State.reread (texts : FloatText) (st : State) : Option State :=
  (st.updates.mapM (TaskUpdateRecord.reread texts)).map fun updates =>
    { st with updates := updates }

lemma Codec.reread_update (texts : FloatText) (u : TaskUpdateRecord) :
    (Codec.update texts).reread u = u.reread texts := by
  refine (JsonForm.reread_record (by exact of_decide_eq_true rfl) _ _ u).trans ?_
  simp [TaskUpdateRecord.reread, JsonForm.reread, Option.map_eq_bind]

/-- **Only the progress of updates is at stake when a state is read back.** -/
theorem Codec.reread_state (texts : FloatText) (st : State) :
    (Codec.state texts).reread st = st.reread texts := by
  have hupdates : (Codec.update texts).reread = TaskUpdateRecord.reread texts :=
    funext (Codec.reread_update texts)
  refine (JsonForm.reread_record (by exact of_decide_eq_true rfl) _ _ st).trans ?_
  simp [State.reread, JsonForm.reread_list, hupdates, Option.map_eq_bind]

/-! ### Payloads and dependencies -/

/-- The payload of a TaskRequest. -/
structure TaskRequestPayload where
  taskId : String
  title : String
  instructions : String
  requestedAssignee : String
  input : Bytes
  deadlineUnixMs : Int64

/-- The answer of an assignee, to accept or to reject. -/
structure TaskAnswerPayload where
  taskId : String
  assignee : String
  reason : String

/-- The payload of a TaskUpdate. -/
structure TaskUpdatePayload where
  taskId : String
  status : String
  progress : Float
  message : String
  partialOutput : Bytes

/-- The payload of a TaskComplete. -/
structure TaskCompletePayload where
  taskId : String
  assignee : String
  output : Bytes
  summary : String

/-- The payload of a TaskFail. -/
structure TaskFailPayload where
  taskId : String
  assignee : String
  errorCode : String
  reason : String
  retryable : Bool

/-- What the mode is given: the protobuf decoders of its payloads, the texts of doubles, the
readers of its rules and the policy evaluator. -/
structure Deps where
  prost : Prost
  decodeTaskRequest : Bytes → Option TaskRequestPayload
  decodeTaskAccept : Bytes → Option TaskAnswerPayload
  decodeTaskReject : Bytes → Option TaskAnswerPayload
  decodeTaskUpdate : Bytes → Option TaskUpdatePayload
  decodeTaskComplete : Bytes → Option TaskCompletePayload
  decodeTaskFail : Bytes → Option TaskFailPayload
  texts : FloatText
  reader : RulesReader
  schemas : RuleSchemas
  evaluator : PolicyEvaluator

variable (d : Deps)

/-- The revision from which a participant who declined may not accept later. -/
def personalDeclineRev : ℕ := 4

variable (session : Session)

/-- The bound policy lets an assignee give the task back. -/
def reassignmentAllowed : Bool :=
  match session.policyDefinition with
  | none => false
  | some policy => (d.schemas.taskOrDefault policy.rules).allowReassignmentOnReject

/-- The task a message is about. -/
def matchTask (st : State) (taskId : String) : Except MacpError TaskRecord :=
  match st.task with
  | none => .error .InvalidPayload
  | some task =>
    if taskId.isEmpty || taskId != task.taskId then .error .InvalidPayload else .ok task

/-- The requested assignee alone may answer; an open request is for every participant but the
initiator. -/
def canAssigneeRespond (task : TaskRecord) (sender : String) : Bool :=
  if !task.requestedAssignee.isEmpty then sender == task.requestedAssignee
  else isDeclaredParticipant session.participants sender && sender != session.initiatorSender

/-- A claimed assignee, if any is claimed, must be the sender. -/
def claimsOther (assignee : String) (env : Envelope) : Bool :=
  !assignee.isEmpty && assignee != env.sender

/-! ### The message arms -/

variable (env : Envelope)

/-- Who may send what. -/
def authorizeSender : Except MacpError Unit :=
  if env.messageType == "TaskRequest" then
    if env.sender == session.initiatorSender then .ok () else .error .Forbidden
  else if env.messageType == "Commitment" then
    checkCommitmentAuthority d.reader session env.sender
  else if isDeclaredParticipant session.participants env.sender then .ok ()
  else .error .Forbidden

/-- Somebody other than the initiator must be there to work. -/
def onSessionStart : Except MacpError State :=
  if !session.participants.any (· != session.initiatorSender) then .error .InvalidPayload
  else .ok .default

variable (st : State)

/-- A TaskRequest: the first is the only one. -/
def handleTaskRequest : Except MacpError (Outcome State) :=
  if env.sender ≠ session.initiatorSender then .error .Forbidden
  else
    match d.decodeTaskRequest env.payload with
    | none => .error .InvalidPayload
    | some payload =>
      if st.task.isSome || payload.taskId.isEmpty then .error .InvalidPayload
      else if !payload.requestedAssignee.isEmpty
          && !isDeclaredParticipant session.participants payload.requestedAssignee then
        .error .InvalidPayload
      else
        .ok (.persist { st with
          task := some ⟨payload.taskId, payload.title, payload.instructions,
            payload.requestedAssignee, payload.input, payload.deadlineUnixMs, env.sender⟩ })

/-- Whether an accept takes up a task that was given back.  Before the personal decline any
earlier rejection counted. -/
def reassigning : Bool :=
  if personalDeclineRev ≤ session.semanticsRev then st.rejections.any (·.whileAssigned)
  else !st.rejections.isEmpty

/-- A TaskAccept, while nobody has the task. -/
def handleTaskAccept : Except MacpError (Outcome State) :=
  match d.decodeTaskAccept env.payload with
  | none => .error .InvalidPayload
  | some payload =>
    match matchTask st payload.taskId with
    | .error e => .error e
    | .ok task =>
      if st.activeAssignee.isSome then .error .InvalidPayload
      else if personalDeclineRev ≤ session.semanticsRev
          ∧ (st.rejections.any (·.assignee == env.sender)) = true then
        .error .InvalidPayload
      else if reassigning session st && !reassignmentAllowed d session then
        .error .InvalidPayload
      else if claimsOther payload.assignee env then .error .InvalidPayload
      else if !canAssigneeRespond session task env.sender then .error .Forbidden
      else .ok (.persist { st with activeAssignee := some env.sender })

/-- A rejection: of an eligible participant before the task is taken, or of the active assignee
where the policy lets it give the task back. -/
def handleTaskReject : Except MacpError (Outcome State) :=
  match d.decodeTaskReject env.payload with
  | none => .error .InvalidPayload
  | some payload =>
    match matchTask st payload.taskId with
    | .error e => .error e
    | .ok task =>
      if st.activeAssignee.isSome
          && (st.activeAssignee != some env.sender || !reassignmentAllowed d session) then
        .error .InvalidPayload
      else if claimsOther payload.assignee env then .error .InvalidPayload
      else if st.activeAssignee.isNone && !canAssigneeRespond session task env.sender then
        .error .Forbidden
      else if st.rejections.any (·.assignee == env.sender) then .error .InvalidPayload
      else
        .ok (.persist { st with
          activeAssignee :=
            if st.activeAssignee = some env.sender then none else st.activeAssignee
          rejections := st.rejections ++ [⟨payload.taskId, env.sender, payload.reason,
            st.activeAssignee == some env.sender⟩] })

/-- The guard of every report: the sender is the active assignee and has not yet finished. -/
def reportBarred : Bool :=
  st.terminalReport.isSome || st.activeAssignee != some env.sender

/-- A TaskUpdate by the assignee. -/
def handleTaskUpdate : Except MacpError (Outcome State) :=
  match d.decodeTaskUpdate env.payload with
  | none => .error .InvalidPayload
  | some payload =>
    match matchTask st payload.taskId with
    | .error e => .error e
    | .ok _ =>
      if reportBarred env st then .error .Forbidden
      else
        .ok (.persist { st with
          updates := st.updates ++ [⟨payload.taskId, payload.status, payload.progress,
            payload.message, payload.partialOutput, env.sender⟩] })

/-- A TaskComplete by the assignee. -/
def handleTaskComplete : Except MacpError (Outcome State) :=
  match d.decodeTaskComplete env.payload with
  | none => .error .InvalidPayload
  | some payload =>
    match matchTask st payload.taskId with
    | .error e => .error e
    | .ok _ =>
      if reportBarred env st then .error .Forbidden
      else if claimsOther payload.assignee env then .error .InvalidPayload
      else
        .ok (.persist { st with
          terminalReport := some (.Complete
            ⟨payload.taskId, env.sender, payload.output, payload.summary⟩) })

/-- A TaskFail by the assignee. -/
def handleTaskFail : Except MacpError (Outcome State) :=
  match d.decodeTaskFail env.payload with
  | none => .error .InvalidPayload
  | some payload =>
    match matchTask st payload.taskId with
    | .error e => .error e
    | .ok _ =>
      if reportBarred env st then .error .Forbidden
      else if claimsOther payload.assignee env then .error .InvalidPayload
      else
        .ok (.persist { st with
          terminalReport := some (.Fail
            ⟨payload.taskId, env.sender, payload.errorCode, payload.reason,
              payload.retryable⟩) })

/-- The named assignee declined before taking the task, so nobody is left to do it. -/
def noEligibleAssignee : Bool :=
  decide (personalDeclineRev ≤ session.semanticsRev) && st.activeAssignee.isNone
    && (match st.task with
      | none => false
      | some task =>
        !task.requestedAssignee.isEmpty
          && st.rejections.any fun r =>
            r.assignee == task.requestedAssignee && !r.whileAssigned)

/-- The report has an output. -/
def hasOutput : Option TaskTerminalReport → Bool
  | some (.Complete record) => !record.output.isEmpty
  | _ => false

/-- A Commitment ends the session. -/
def handleCommitment : Except MacpError (Outcome State) :=
  match validateCommitmentPayloadForSession d.prost session env.payload with
  | .error e => .error e
  | .ok commitment =>
    if st.terminalReport.isNone
        && !(noEligibleAssignee session st && !commitment.outcomePositive) then
      .error .InvalidPayload
    else
      match enforceCommitmentPolicy d.evaluator session (.Task (hasOutput st.terminalReport))
          commitment.outcomePositive with
      | .error e => .error e
      | .ok _ => .ok ⟨st, some env.payload⟩

/-- One message on the held state. -/
def handle : Except MacpError (Outcome State) :=
  if env.messageType == "TaskRequest" then handleTaskRequest d session env st
  else if env.messageType == "TaskAccept" then handleTaskAccept d session env st
  else if env.messageType == "TaskReject" then handleTaskReject d session env st
  else if env.messageType == "TaskUpdate" then handleTaskUpdate d env st
  else if env.messageType == "TaskComplete" then handleTaskComplete d env st
  else if env.messageType == "TaskFail" then handleTaskFail d env st
  else if env.messageType == "Commitment" then handleCommitment d session env st
  else .error .InvalidPayload

/-- `TaskMode`, by its parts. -/
def parts : StateMode State where
  encode := (Codec.state d.texts).encode
  decode := (Codec.state d.texts).decode
  encode_ne_nil := (Codec.state d.texts).encode_ne_nil
  absent := some .default
  start := onSessionStart
  authorize := authorizeSender d
  handle := handle d

lemma parts_startsWith : (parts d).StartsWith .default :=
  StateMode.startsWith_of_guard fun _ => rfl

lemma parts_decode_encode : (parts d).decode ((parts d).encode st) = st.reread d.texts := by
  dsimp only [parts]
  rw [JsonForm.decode_encode, Codec.reread_state]

end MacpRuntime.Task
