import JobQueue.Machines.JsonText

/-!
# Payloads and identities of routed jobs

A job reaches its handler directly with its own bytes, or inside the envelope of a
chain node, a batch member or a legacy dispatch. On the way into an envelope the
payload is marshalled as raw JSON, and the envelope itself is JSON, so that its type
becomes valid UTF-8. An envelope is what it decodes to, and a key is what its digest
is computed from.
-/

namespace JobQueue.Payloads

open JsonText

/-- A validated application job; no bytes are an absent payload. -/
structure Job where
  type : Bytes
  payload : Bytes := []
  named : type ≠ []

/-- The bytes of an ASCII text. -/
def ascii (text : String) : Bytes := text.toList.map byte

/-- The JSON text `null`. -/
def null : Bytes := ascii "null"

/-- `json.Marshal` of raw JSON, or of nothing. -/
def marshalRaw (payload : Bytes) : Option Bytes :=
  if payload = [] then some null else appendCompact {} 0 payload

/-- The stored form of a workflow job: `toWorkflowJob` and `toStoredJob`. -/
def toStoredJob (job : Job) : Option Job :=
  (marshalRaw job.payload).map fun payload => { job with payload := payload }

/-- The physical type of a direct job in an envelope. -/
def directDeliveryType : Bytes := ascii "bus:job"

/-- The type belongs to the workflow protocol. -/
def isDeliveryType (type : Bytes) : Bool :=
  type ∈ [directDeliveryType, ascii "bus:chain:node", ascii "bus:batch:job", ascii "bus:callback"]

/-- What a queue transports. -/
inductive Delivery where
  | direct (job : Job)
  | envelope (deliveryType : Bytes) (job : Job)

/-- The envelope of a job. The payload travels as base64, the type as a JSON
string. -/
def Delivery.wrap (deliveryType : Bytes) (job : Job) : Delivery :=
  .envelope deliveryType
    { job with type := coerceUTF8 0 job.type, named := coerceUTF8_ne_nil job.named }

/-- The ways to send a job through the workflow engine. -/
inductive Route where
  | chainNode
  | batchMember
  | legacyDispatch

/-- The physical type of a route. -/
def Route.deliveryType : Route -> Bytes
  | .chainNode => ascii "bus:chain:node"
  | .batchMember => ascii "bus:batch:job"
  | .legacyDispatch => directDeliveryType

/-- What a job becomes on a route; no result is a marshalling error. -/
def Route.send (route : Route) (job : Job) : Option Delivery :=
  (toStoredJob job).map (.wrap route.deliveryType)

/-- `DispatchDirect`: only reserved types get an envelope, with exact bytes. -/
def dispatchDirect (job : Job) : Delivery :=
  if isDeliveryType job.type then .wrap directDeliveryType job
  else .direct job

/-- The logical job of a delivery, which its handler receives. -/
def Delivery.resolveLogicalJob : Delivery -> Job
  | .direct job => job
  | .envelope _ job => job

/-- `CanonicalPayload` identifies an absent payload with JSON null. -/
def canonicalPayload (payload : Bytes) : Bytes :=
  if payload = [] ∨ payload = null then [] else payload

/-- The identity that `DriverUniqueKey` digests. -/
structure UniqueKey where
  queueName : Bytes
  jobType : Bytes
  payload : Bytes

/-- The identity of the logical job of a delivery. -/
def driverUniqueKey (delivery : Delivery) (queueName : Bytes) : UniqueKey where
  queueName := queueName
  jobType := delivery.resolveLogicalJob.type
  payload := canonicalPayload delivery.resolveLogicalJob.payload

/-- The job arrives with its payload and with the identity of a direct dispatch. -/
def Unchanged (job : Job) (delivery : Delivery) : Prop :=
  canonicalPayload delivery.resolveLogicalJob.payload = canonicalPayload job.payload ∧
    ∀ queueName, driverUniqueKey delivery queueName = driverUniqueKey (dispatchDirect job) queueName

/-- A job leaves its envelope as it went in exactly if its type is valid UTF-8. -/
theorem resolveLogicalJob_wrap (deliveryType : Bytes) (job : Job) :
    (Delivery.wrap deliveryType job).resolveLogicalJob = job ↔ validUTF8 0 job.type = true := by
  cases job
  simp [Delivery.wrap, Delivery.resolveLogicalJob, ← coerceUTF8_eq_self_iff]

/-- A direct dispatch changes nothing: the reserved types are valid UTF-8. -/
theorem resolveLogicalJob_dispatchDirect : (dispatchDirect job).resolveLogicalJob = job := by
  unfold dispatchDirect
  split
  · rename_i reserved
    have plain : ∀ type ∈ [directDeliveryType, ascii "bus:chain:node",
        ascii "bus:batch:job", ascii "bus:callback"], validUTF8 0 type = true := by
      decide +kernel
    exact (resolveLogicalJob_wrap _ job).mpr (plain _ (of_decide_eq_true reserved))
  · rfl

/-- Compaction changes a payload exactly if it changes the canonical form. -/
theorem canonicalPayload_compacted_iff (present : payload ≠ [])
    (compacted : appendCompact {} 0 payload = some out) :
    canonicalPayload out = canonicalPayload payload ↔ out = payload := by
  refine ⟨fun same => ?_, fun same => by rw [same]⟩
  by_cases nothing : payload = null
  · have kept : appendCompact {} 0 null = some null := by decide +kernel
    rw [nothing, kept] at compacted
    exact nothing ▸ (Option.some.inj compacted).symm
  · have literal : canonicalPayload payload = payload := by
      simp [canonicalPayload, present, nothing]
    rw [literal] at same
    unfold canonicalPayload at same
    split at same
    · exact absurd same.symm present
    · exact same

/-- A routed job is unchanged exactly if its payload and its type are. -/
theorem unchanged_wrap_iff (deliveryType payload : Bytes) :
    Unchanged job (.wrap deliveryType { job with payload := payload }) ↔
      canonicalPayload payload = canonicalPayload job.payload ∧ validUTF8 0 job.type = true := by
  rw [← coerceUTF8_eq_self_iff]
  simp only [Unchanged, driverUniqueKey, resolveLogicalJob_dispatchDirect,
    UniqueKey.mk.injEq, true_and]
  refine ⟨fun ⟨same, keys⟩ => ⟨same, (keys []).1⟩,
    fun ⟨same, type⟩ => ⟨same, fun _ => ⟨type, same⟩⟩⟩

/-- A job with an absent or valid payload arrives unchanged over a workflow route
exactly if compaction has nothing to do on its payload (there is no space outside
strings, and no `<`, `>`, `&`, U+2028 or U+2029) and its type is valid UTF-8. -/
theorem routed_unchanged_iff (job : Job) (route : Route)
    (json : job.payload = [] ∨ valid {} job.payload = true) :
    (∃ delivery, route.send job = some delivery ∧ Unchanged job delivery) ↔
      Compact {} job.payload ∧ validUTF8 0 job.type = true := by
  by_cases absent : job.payload = []
  · have sent : route.send job = some (.wrap route.deliveryType { job with payload := null }) := by
      simp [Route.send, toStoredJob, marshalRaw, absent]
    rw [sent]
    simp only [Option.some_inj, exists_eq_left', unchanged_wrap_iff]
    simp [canonicalPayload, absent, Compact]
  · have scanned := json.resolve_left absent
    rw [← appendCompact_isSome 0] at scanned
    obtain ⟨out, compacted⟩ := Option.isSome_iff_exists.mp scanned
    have sent : route.send job = some (.wrap route.deliveryType { job with payload := out }) := by
      simp [Route.send, toStoredJob, marshalRaw, absent, compacted]
    rw [← appendCompact_eq_self_iff compacted, ← canonicalPayload_compacted_iff absent compacted,
      ← unchanged_wrap_iff route.deliveryType out, sent]
    simp

/-- Space and an ampersand do not survive a chain, and a type that is not UTF-8
does not either. -/
theorem routed_changed :
    let job : Job := ⟨ascii "mail", ascii "[ \"&\"]", by decide +kernel⟩
    let other : Job := ⟨[0xFF], ascii "1", by decide⟩
    valid {} job.payload = true ∧
      (Route.chainNode.send job).map (·.resolveLogicalJob.payload) = some (ascii "[\"\\u0026\"]") ∧
      (Route.chainNode.send other).map (·.resolveLogicalJob.type) = some [0xEF, 0xBF, 0xBD] ∧
      (dispatchDirect other).resolveLogicalJob.type = [0xFF] := by
  decide +kernel

/-- A payload without space or special bytes survives a batch. -/
theorem routed_unchanged_iff_compact :
    let job : Job := ⟨ascii "mail", ascii "1", by decide +kernel⟩
    ∃ delivery, Route.batchMember.send job = some delivery ∧ Unchanged job delivery :=
  (routed_unchanged_iff _ _ (.inr (by decide +kernel))).mpr
    ⟨⟨by decide +kernel, rfl, trivial⟩, by decide +kernel⟩

end JobQueue.Payloads
