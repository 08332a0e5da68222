import JobQueue.Collections.Framing
import JobQueue.Runtime.Payloads
import Mathlib.Data.List.Basic

/-!
# Hashed identities

Facts, receipts and unique jobs are named by digests of framed values. As far as
the digest tells the framed values apart, a name determines everything that was
put into it.
-/

namespace JobQueue.Identities

open Framing

/-- A hash function; nothing depends on how it is computed. -/
abbrev Digest := List UInt8 -> List UInt8

/-- Two texts do not collide. -/
def Digest.Separates (digest : Digest) (left right : List UInt8) : Prop :=
  digest left = digest right -> left = right

/-- `fmt.Sprintf("%d", value)`. -/
def sprintf (value : Int64) : Text :=
  ⟨decimal value.toInt, length_decimal_lt value⟩

/-- Different numbers are written differently. -/
theorem sprintf_injective : Function.Injective sprintf := fun _ _ same =>
  Int64.toInt_inj.mp (decimal_injective (congrArg Subtype.val same))

/-! ### Facts and receipts -/

/-- The version that every fact identifier carries. -/
def eventSchemaVersion : Int64 := 1

/-- What `stableWorkflowFactID` hashes. -/
def factIdentity (kind : Text) (identity : List Text) : List UInt8 :=
  frames (sprintf eventSchemaVersion :: kind :: identity)

/-- The identifier of a fact. -/
def stableWorkflowFactID (sha256 : Digest) (kind : Text) (identity : List Text) : List Char :=
  "evt_".toList ++ hex ((sha256 (factIdentity kind identity)).take 16)

/-- Options of a stored job, durations in nanoseconds. -/
structure JobOptions where
  queue : Text
  delay : Int64
  timeout : Int64
  retry : Int64
  backoff : Int64
  uniqueFor : Int64

/-- A job as workflow state and envelopes hold it. -/
structure StoredJob where
  type : Text
  payload : Text
  options : JobOptions

/-- What `storedJobReceiptFingerprint` hashes. -/
def receiptIdentity (job : StoredJob) : List UInt8 :=
  frames [job.type, job.payload, job.options.queue, sprintf job.options.delay,
    sprintf job.options.timeout, sprintf job.options.retry,
    sprintf job.options.backoff, sprintf job.options.uniqueFor]

/-- The fingerprint of a job in receipts. -/
def storedJobReceiptFingerprint (sha256 : Digest) (job : StoredJob) : List Char :=
  hex (sha256 (receiptIdentity job))

/-- Different jobs are framed differently. -/
theorem receiptIdentity_injective : Function.Injective receiptIdentity := by
  rintro ⟨type, payload, options⟩ ⟨otherType, otherPayload, others⟩ same
  have values := frames_injective same
  simp only [List.cons.injEq, sprintf_injective.eq_iff, and_true] at values
  obtain ⟨rfl, rfl, queue, delay, timeout, retry, backoff, unique⟩ := values
  cases options
  cases others
  simp_all

/-! ### Unique jobs -/

/-- What is read of the envelope of a workflow delivery. -/
structure Envelope where
  schemaVersion : Int64
  dispatchID : Text
  jobID : Text
  chainID : Text
  batchID : Text
  jobType : Text
  jobPayload : Text

/-- A job as a driver receives it, with its logical job if that was set. -/
structure Job where
  type : Text
  payload : Text
  logical : Option (Text × Text) := none

/-- `canonicalIdentityPayload`, which fits in memory with its payload. -/
def canonicalIdentityPayload (payload : Text) : Text :=
  ⟨Payloads.canonicalPayload payload.1, by
    unfold Payloads.canonicalPayload
    split
    · decide
    · exact payload.2⟩

/-- The version in front of every unique identity. -/
def driverUniqueKeyVersion : List UInt8 :=
  "goforj:queue:unique:v1".toList.map byte

/-- What `DriverUniqueKey` hashes for a logical type and payload. -/
def uniqueIdentity (queueName : Text) (logical : Text × Text) : List UInt8 :=
  driverUniqueKeyVersion ++ frames [queueName, logical.1, canonicalIdentityPayload logical.2]

section

/-! Nothing depends on how envelopes are decoded. -/

variable (decode : List UInt8 -> Option Envelope)

/-- The logical type and payload of `ResolveDelivery`. -/
def resolveLogicalJob (type payload : Text) : Text × Text :=
  if type.1 = [] ∨ payload.1 = [] ∨ Payloads.isDeliveryType type.1 = false then
    (type, payload)
  else
    match decode payload.1 with
    | none => (type, payload)
    | some envelope =>
      if envelope.schemaVersion ≠ 1 ∨ envelope.jobType.1 = [] then (type, payload)
      else (envelope.jobType, envelope.jobPayload)

/-- The logical job that was set, or the resolved one. -/
def Job.logicalJob (job : Job) : Text × Text :=
  job.logical.getD (resolveLogicalJob decode job.type job.payload)

/-- `DriverUniqueKey`. -/
def driverUniqueKey (sha256 : Digest) (job : Job) (queueName : Text) : List Char :=
  "v1:".toList ++ hex (sha256 (uniqueIdentity queueName (job.logicalJob decode)))

/-- The job is a workflow delivery that carries the envelope. -/
structure Job.Carries (job : Job) (envelope : Envelope) : Prop where
  physical : job.logical = none
  delivery : Payloads.isDeliveryType job.type.1 = true
  decoded : decode job.payload.1 = some envelope
  present : job.payload.1 ≠ []
  supported : envelope.schemaVersion = 1
  named : envelope.jobType.1 ≠ []

/-- The job is what a driver receives for a delivery. -/
inductive Job.Transports (job : Job) : Payloads.Delivery -> Prop
  | direct {logical : Payloads.Job} (physical : job.logical = none)
      (type : job.type.1 = logical.type) (payload : job.payload.1 = logical.payload)
      (unreserved : Payloads.isDeliveryType logical.type = false) :
      job.Transports (.direct logical)
  | envelope {deliveryType : List UInt8} {logical : Payloads.Job}
      {envelope : Envelope} (carries : job.Carries decode envelope)
      (type : envelope.jobType.1 = logical.type)
      (payload : envelope.jobPayload.1 = logical.payload) :
      job.Transports (.envelope deliveryType logical)

variable {decode}

/-- The logical job of a workflow delivery is the one of its envelope. -/
theorem Job.Carries.logicalJob {job : Job} (carries : job.Carries decode envelope) :
    job.logicalJob decode = (envelope.jobType, envelope.jobPayload) := by
  have typed : job.type.1 ≠ [] := by
    intro empty
    have delivery := carries.delivery
    rw [empty] at delivery
    revert delivery
    decide +kernel
  simp [Job.logicalJob, resolveLogicalJob, carries.physical, carries.delivery,
    carries.decoded, carries.present, carries.supported, carries.named, typed]

/-- The key of a delivery is the digest of the identity that was routed. -/
theorem Job.Transports.uniqueKey {job : Job} (transports : job.Transports decode delivery)
    (queueName : Text) :
    Payloads.driverUniqueKey delivery queueName.1 = ⟨queueName.1, (job.logicalJob decode).1.1,
      (canonicalIdentityPayload (job.logicalJob decode).2).1⟩ := by
  cases transports with
  | direct physical type payload unreserved =>
    simp [Job.logicalJob, resolveLogicalJob, physical, unreserved, Payloads.driverUniqueKey,
      Payloads.Delivery.resolveLogicalJob, canonicalIdentityPayload, type, payload]
  | envelope carries type payload =>
    simp [carries.logicalJob, Payloads.driverUniqueKey,
      Payloads.Delivery.resolveLogicalJob, canonicalIdentityPayload, type, payload]

/-- An identifier determines what it was computed from as far as its hash does,
and a unique key depends on nothing of an envelope but its logical job. -/
theorem identities_unambiguous (sha256 : Digest) :
    (∀ kind identity other others, Digest.Separates (fun text => (sha256 text).take 16)
        (factIdentity kind identity) (factIdentity other others) ->
      stableWorkflowFactID sha256 kind identity = stableWorkflowFactID sha256 other others ->
      kind = other ∧ identity = others) ∧
    (∀ job other, sha256.Separates (receiptIdentity job) (receiptIdentity other) ->
      storedJobReceiptFingerprint sha256 job =
        storedJobReceiptFingerprint sha256 other -> job = other) ∧
    (∀ (job other : Job) queueName otherName,
      sha256.Separates (uniqueIdentity queueName (job.logicalJob decode))
        (uniqueIdentity otherName (other.logicalJob decode)) ->
      driverUniqueKey decode sha256 job queueName = driverUniqueKey decode sha256 other otherName ->
      queueName = otherName ∧ (job.logicalJob decode).1 = (other.logicalJob decode).1 ∧
        canonicalIdentityPayload (job.logicalJob decode).2 =
          canonicalIdentityPayload (other.logicalJob decode).2) ∧
    ∀ (job other : Job) envelope carried, job.Carries decode envelope ->
      other.Carries decode carried -> envelope.jobType = carried.jobType ->
      canonicalIdentityPayload envelope.jobPayload = canonicalIdentityPayload carried.jobPayload ->
      ∀ queueName, driverUniqueKey decode sha256 job queueName =
        driverUniqueKey decode sha256 other queueName := by
  refine ⟨?_, ?_, ?_, ?_⟩
  · intro kind identity other others separates same
    have digests := hex_injective (List.append_cancel_left same)
    have values := frames_injective (separates digests)
    simpa using values
  · intro job other separates same
    exact receiptIdentity_injective (separates (hex_injective same))
  · intro job other queueName otherName separates same
    have digests := hex_injective (List.append_cancel_left same)
    have values := frames_injective (List.append_cancel_left (separates digests))
    simpa using values
  · intro job other envelope carried carries carriesOther type payload queueName
    simp [driverUniqueKey, uniqueIdentity, carries.logicalJob,
      carriesOther.logicalJob, type, payload]

/-- A short ASCII text. -/
def ascii (text : String) (small : (text.toList.map byte).length < 2 ^ 63) : Text :=
  ⟨text.toList.map byte, small⟩

/-- A mail job of a queue. -/
def mailJob (queue : Text) : StoredJob where
  type := ascii "mail" (by decide +kernel)
  payload := ascii "1" (by decide +kernel)
  options := ⟨queue, 0, 0, 0, 0, 0⟩

/-- The envelope of a mail job, read off a payload that is its dispatch. -/
def mailEnvelope (payload : List UInt8) : Option Envelope :=
  if small : payload.length < 2 ^ 63 then
    some ⟨1, ⟨payload, small⟩, ascii "job" (by decide +kernel), ascii "" (by decide +kernel),
      ascii "" (by decide +kernel), ascii "mail" (by decide +kernel), ascii "1" (by decide +kernel)⟩
  else none

theorem identities_unambiguous_mail :
    let first := ascii "first" (by decide +kernel)
    let second := ascii "second" (by decide +kernel)
    let delivery (dispatch : Text) : Job :=
      { type := ascii "bus:job" (by decide +kernel), payload := dispatch }
    stableWorkflowFactID List.reverse first [] ≠ stableWorkflowFactID List.reverse second [] ∧
      storedJobReceiptFingerprint List.reverse (mailJob first) ≠
        storedJobReceiptFingerprint List.reverse (mailJob second) ∧
      driverUniqueKey mailEnvelope List.reverse (delivery first) first ≠
        driverUniqueKey mailEnvelope List.reverse (delivery second) second ∧
      driverUniqueKey mailEnvelope List.reverse (delivery first) first =
        driverUniqueKey mailEnvelope List.reverse (delivery second) first := by
  intro first second delivery
  obtain ⟨facts, receipts, keys, envelopes⟩ := @identities_unambiguous mailEnvelope List.reverse
  have separates := @List.reverse_injective UInt8
  have different : first ≠ second := by decide +kernel
  have carries := @Job.Carries.mk mailEnvelope (delivery first) _ rfl
    (by decide +kernel) rfl (by decide +kernel) rfl (by decide +kernel)
  have carriesOther := @Job.Carries.mk mailEnvelope (delivery second) _ rfl
    (by decide +kernel) rfl (by decide +kernel) rfl (by decide +kernel)
  refine ⟨fun same => different (facts _ _ _ _ ?_ same).1, fun same => ?_,
    fun same => different (keys _ _ _ _ (fun equal => separates equal) same).1,
    envelopes _ _ _ _ carries carriesOther rfl rfl first⟩
  · intro same
    revert same
    decide +kernel
  · have queues := receipts _ _ (fun equal => separates equal) same
    exact different (congrArg (·.options.queue) queues)

end

end JobQueue.Identities
