import Datagrid.Operation.Authentication
import Datagrid.Operation.EntryListener
import Datagrid.Operation.ListenerRemoval
import Datagrid.Operation.Statistics
import Datagrid.Proofs.Operation.Opening

/-!
# What operations say

Every request, response and event conveys the value it was made of: each fixed field is read where
it was written, and each value in frames of its own is taken in its turn.
-/
namespace Datagrid

open Cursor (Takes)

/-! ## Operations -/

namespace Authentication

theorem conveys_request (r : AuthenticationRequest) :
    (encodeRequest r).Conveys false requestType decodeRequest r := by
  refine .intro (congrArg (· :: _) Frame.ofRequest_eq) ?_ rfl fun f header => ?_
  · simp only [List.forall_mem_append]
    exact ⟨⟨⟨⟨⟨Codec.faithful_text.unmarked _, Codec.faithful_bytes.unmarked _⟩, Codec.faithful_text.unmarked _⟩,
      Codec.faithful_text.unmarked _⟩, Codec.faithful_text.unmarked _⟩, Codec.faithful_text.list.unmarked _⟩
  · refine .field (Frame.drop_partition header) (by decide) fun version => ?_
    refine .lastField version (by decide) ?_
    simp only [List.append_assoc]
    refine .bind (Codec.faithful_text.reads r.clusterName) ?_
    refine .bind (Codec.faithful_bytes.reads r.credentials) ?_
    refine .bind (Codec.faithful_text.reads r.clientType) ?_
    refine .bind (Codec.faithful_text.reads r.clientVersion) ?_
    refine .bind (Codec.faithful_text.reads r.clientName) ?_
    exact .last (Codec.faithful_text.list.reads r.labels) (.pure r)

theorem conveys_response (r : AuthenticationResponse) :
    (encodeResponse r).Conveys false responseType decodeResponse r := by
  have address := Codec.faithful_address.nullable Codec.present_address
  refine .intro (congrArg (· :: _) Frame.ofResponse_eq) ?_ rfl fun f header => ?_
  · rw [List.forall_mem_append]
    exact ⟨address.unmarked _, Codec.faithful_text.unmarked _⟩
  · have status := Frame.drop_backupAcks header
    simp only [List.append_assoc] at status
    refine .field status (by decide) fun member => ?_
    refine .field member (by decide) fun version => ?_
    refine .field version (by decide) fun partitions => ?_
    refine .field partitions (by decide) fun cluster => ?_
    refine .field cluster (by decide) fun failover => ?_
    refine .lastField failover (by decide) ?_
    refine .bind (address.reads r.address) ?_
    exact .last (Codec.faithful_text.reads r.serverVersion) (.pure r)

end Authentication

theorem Statistics.conveys_request (r : StatisticsRequest) :
    (encodeRequest r).Conveys false requestType decodeRequest r := by
  refine .intro (congrArg (· :: _) Frame.ofRequest_eq) ?_ rfl fun f header => ?_
  · rw [List.forall_mem_append]
    exact ⟨Codec.faithful_text.unmarked _, Codec.faithful_bytes.unmarked _⟩
  · refine .lastField (Frame.drop_partition header) (by decide) ?_
    refine .bind (Codec.faithful_text.reads r.attributes) ?_
    exact .last (Codec.faithful_bytes.reads r.metrics) (.pure r)

namespace ListenerRemoval

theorem conveys_request (map : String) (registration : Uuid) :
    (encodeRequest map registration).Conveys false requestType decodeRequest (map, some registration) := by
  refine .intro (congrArg (· :: _) Frame.ofRequest_eq) (Codec.faithful_text.unmarked map) rfl fun f header => ?_
  refine .lastField (Frame.drop_partition header) (by decide) ?_
  exact .last (Codec.faithful_text.reads map) (.pure (map, some registration))

theorem conveys_response (removed : Bool) :
    (encodeResponse removed).Conveys false responseType decodeResponse removed := by
  refine .intro (congrArg (· :: _) Frame.ofResponse_eq) (by simp) rfl fun f header => ?_
  exact .settle (Field.read_of_drop ((Frame.drop_backupAcks header).trans (List.append_nil _).symm) (by decide))

end ListenerRemoval

namespace EntryListener

/-- A filter that has to be there, or not to be, is read as it was written. -/
theorem takes_readFilter (filter : Option Data) : Takes (readFilter filter.isSome) (filterFrames filter) filter := by
  cases filter with
  | none => exact .pure none
  | some d => exact (Codec.faithful_data.reads d).map some

theorem unmarked_filterFrames (filter : Option Data) : ∀ f ∈ filterFrames filter, f.isFinal = false := by
  cases filter with
  | none => simp [filterFrames]
  | some d => exact Codec.faithful_data.unmarked d

theorem conveys_request {s : Selection} {r : ListenerRequest} {m : Message} (encoded : encodeRequest s r = .ok m) :
    m.Conveys false s.requestType (decodeRequest s) r := by
  unfold encodeRequest at encoded
  split at encoded
  · cases encoded
  next fits =>
    obtain ⟨key, predicate⟩ : r.key.isSome = s.hasKey ∧ r.predicate.isSome = s.hasPredicate := by
      simpa using fits
    cases encoded
    refine .intro (congrArg (· :: _) Frame.ofRequest_eq) ?_ rfl fun f header => ?_
    · simp only [List.forall_mem_append]
      exact ⟨⟨Codec.faithful_text.unmarked _, unmarked_filterFrames _⟩, unmarked_filterFrames _⟩
    · have includeValue := Frame.drop_partition header
      simp only [List.append_assoc] at includeValue
      refine .field includeValue (by decide) fun interest => ?_
      refine .field interest (by decide) fun localOnly => ?_
      refine .lastField localOnly (by decide) ?_
      simp only [List.append_assoc]
      refine .bind (Codec.faithful_text.reads r.map) ?_
      refine .bind (key ▸ takes_readFilter r.key) ?_
      exact .last (predicate ▸ takes_readFilter r.predicate) (.pure r)

theorem conveys_response (s : Selection) (registration : Uuid) :
    (encodeResponse s registration).Conveys false s.responseType (decodeResponse s) registration := by
  refine .intro (congrArg (· :: _) Frame.ofResponse_eq) (by simp) rfl fun f header => ?_
  exact .lastField (Frame.drop_backupAcks header) (by decide) (.pure registration)

theorem conveys_event (s : Selection) (e : EntryReport) :
    (encodeEvent s e).Conveys true s.eventType (decodeEvent s) e := by
  have value := Codec.faithful_data.nullable (Codec.present_of_content fun _ => rfl)
  refine .intro (congrArg (· :: _) Frame.ofEvent_eq) ?_ rfl fun f header => ?_
  · simp only [List.flatMap_cons, List.flatMap_nil, List.append_nil, List.forall_mem_append]
    exact ⟨value.unmarked _, value.unmarked _, value.unmarked _, value.unmarked _⟩
  · have kind := Frame.drop_partition header
    simp only [List.append_assoc] at kind
    refine .field kind (by decide) fun member => ?_
    refine .field member (by decide) fun affected => ?_
    refine .lastField affected (by decide) ?_
    simp only [List.flatMap_cons, List.flatMap_nil, List.append_nil]
    refine .bind (value.reads e.key) ?_
    refine .bind (value.reads e.value) ?_
    refine .bind (value.reads e.oldValue) ?_
    exact .last (value.reads e.mergingValue) (.pure e)

theorem encodeRequest_of_fits {s : Selection} {r : ListenerRequest}
    (fits : (r.key.isSome == s.hasKey && r.predicate.isSome == s.hasPredicate) = true) :
    ∃ m, encodeRequest s r = .ok m := by
  rw [encodeRequest, if_neg]
  · exact ⟨_, rfl⟩
  · rw [bne, bne, ← Bool.not_and, fits]
    decide

/-- A request is refused whose filters are not those of the selection. -/
theorem encodeRequest_of_misfit {s : Selection} {r : ListenerRequest}
    (misfit : (r.key.isSome == s.hasKey && r.predicate.isSome == s.hasPredicate) = false) :
    encodeRequest s r = .error (.protocol (.filters s.operation s.hasKey s.hasPredicate)) := by
  rw [encodeRequest, if_pos]
  rw [bne, bne, ← Bool.not_and, misfit]
  rfl

end EntryListener

/-! ## Messages of any operation -/

/-- What a message of an operation says. -/
inductive Content where
  | authenticationRequest (r : AuthenticationRequest)
  | authenticationResponse (r : AuthenticationResponse)
  | statistics (r : StatisticsRequest)
  | removalRequest (map : String) (registration : Uuid)
  | removalResponse (removed : Bool)
  | listenerRequest (s : Selection) (r : ListenerRequest)
  | listenerResponse (s : Selection) (registration : Uuid)
  | event (s : Selection) (e : EntryReport)

namespace Content

/-- The message that one side makes of it. -/
def encode : Content → Except Fault Message
  | authenticationRequest r => .ok (Authentication.encodeRequest r)
  | authenticationResponse r => .ok (Authentication.encodeResponse r)
  | statistics r => .ok (Statistics.encodeRequest r)
  | removalRequest map registration => .ok (ListenerRemoval.encodeRequest map registration)
  | removalResponse removed => .ok (ListenerRemoval.encodeResponse removed)
  | listenerRequest s r => EntryListener.encodeRequest s r
  | listenerResponse s registration => .ok (EntryListener.encodeResponse s registration)
  | event s e => .ok (EntryListener.encodeEvent s e)

/-- Whether the opposite side reads exactly this from a message. -/
def IsReadFrom (m : Message) : Content → Prop
  | authenticationRequest r => m.inspect Authentication.decodeRequest = .ok r
  | authenticationResponse r => m.inspect Authentication.decodeResponse = .ok r
  | statistics r => m.inspect Statistics.decodeRequest = .ok r
  | removalRequest map registration => m.inspect ListenerRemoval.decodeRequest = .ok (map, some registration)
  | removalResponse removed => m.inspect ListenerRemoval.decodeResponse = .ok removed
  | listenerRequest s r => m.inspect (EntryListener.decodeRequest s) = .ok r
  | listenerResponse s registration => m.inspect (EntryListener.decodeResponse s) = .ok registration
  | event s e => m.inspect (EntryListener.decodeEvent s) = .ok e

def type : Content → Int32
  | authenticationRequest _ => Authentication.requestType
  | authenticationResponse _ => Authentication.responseType
  | statistics _ => Statistics.requestType
  | removalRequest .. => ListenerRemoval.requestType
  | removalResponse _ => ListenerRemoval.responseType
  | listenerRequest s _ => s.requestType
  | listenerResponse s _ => s.responseType
  | event s _ => s.eventType

def isEvent : Content → Bool
  | event .. => true
  | _ => false

/-- Whether the filters of a request are those of the selection. -/
def fits : Content → Bool
  | listenerRequest s r => r.key.isSome == s.hasKey && r.predicate.isSome == s.hasPredicate
  | _ => true

/-- It can be sent with a correlation id, and arrives: at whatever size messages are cut, a decoder
    that can open the message, if it is cut, gets one message that says the same under the same id. -/
def Arrives (c : Content) (id : Int64) : Prop :=
  ∃ m sent, c.encode = .ok m ∧ m.setCorrelation id = .ok sent ∧
    ∀ (limit : Option Nat) (fragmentId : Int64) (d : Decoder), sent.wireSize < 2 ^ 31 → d.pending = [] →
      (usesFragmentId limit sent → d.find? fragmentId = none) →
      (usesFragmentId limit sent → d.fragments.length < d.limit) →
      ∃ bytes arrived, encodeMessage limit fragmentId sent = .ok bytes ∧ d.drain bytes = ⟨[arrived], none, d, []⟩ ∧
        c.IsReadFrom arrived ∧ arrived.messageType = .ok c.type ∧ arrived.correlation = .ok id ∧
        arrived.isEvent = c.isEvent

/-- It arrives if what is made of it conveys it. -/
private theorem arrives_of_conveys (c : Content) {α : Type} {decode : OnMessage α} {a : α} {m : Message}
    (encoded : c.encode = .ok m) (conveys : m.Conveys c.isEvent c.type decode a)
    (reads : ∀ arrived : Message, arrived.inspect decode = .ok a → c.IsReadFrom arrived) (id : Int64) :
    c.Arrives id := by
  obtain ⟨sent, set, arrives⟩ := conveys.arrives id
  refine ⟨m, sent, encoded, set, fun limit fragmentId d small boundary fresh room => ?_⟩
  obtain ⟨bytes, arrived, written, drained, delivers⟩ := arrives limit fragmentId d small boundary fresh room
  exact ⟨bytes, arrived, written, drained, reads arrived delivers.value, delivers.type, delivers.correlation,
    delivers.event⟩

private theorem arrives_of_fits {c : Content} (fits : c.fits = true) (id : Int64) : c.Arrives id := by
  cases c with
  | authenticationRequest r =>
    exact arrives_of_conveys (.authenticationRequest r) rfl (Authentication.conveys_request r) (fun _ => (·)) id
  | authenticationResponse r =>
    exact arrives_of_conveys (.authenticationResponse r) rfl (Authentication.conveys_response r) (fun _ => (·)) id
  | statistics r => exact arrives_of_conveys (.statistics r) rfl (Statistics.conveys_request r) (fun _ => (·)) id
  | removalRequest map registration =>
    exact arrives_of_conveys (.removalRequest map registration) rfl
      (ListenerRemoval.conveys_request map registration) (fun _ => (·)) id
  | removalResponse removed =>
    exact arrives_of_conveys (.removalResponse removed) rfl (ListenerRemoval.conveys_response removed) (fun _ => (·)) id
  | listenerRequest s r =>
    obtain ⟨m, encoded⟩ := EntryListener.encodeRequest_of_fits fits
    exact arrives_of_conveys (.listenerRequest s r) encoded (EntryListener.conveys_request encoded) (fun _ => (·)) id
  | listenerResponse s registration =>
    exact arrives_of_conveys (.listenerResponse s registration) rfl (EntryListener.conveys_response s registration)
      (fun _ => (·)) id
  | event s e => exact arrives_of_conveys (.event s e) rfl (EntryListener.conveys_event s e) (fun _ => (·)) id

/-- Whatever an operation says arrives as it was said, but a request is refused whose filters are
    not those of the selection. -/
theorem arrives_unless_misfit (c : Content) (id : Int64) :
    (c.fits = true → c.Arrives id) ∧
      (c.fits = false → ∃ s r, c = .listenerRequest s r ∧
        c.encode = .error (.protocol (.filters s.operation s.hasKey s.hasPredicate))) := by
  refine ⟨fun fits => arrives_of_fits fits id, fun misfit => ?_⟩
  cases c with
  | listenerRequest s r => exact ⟨s, r, rfl, EntryListener.encodeRequest_of_misfit misfit⟩
  | _ => cases misfit

/-- A request with a key and a predicate arrives in fragments of at most 60 bytes, and one without
    the predicate is refused. -/
theorem filtered_request_arrives :
    let name : Data := .ofParts (-11) 0 [0, 0, 0, 1, 97]
    let r : ListenerRequest := ⟨"orders", some name, some name, true, 3, false⟩
    let c : Content := .listenerRequest .keyAndPredicate r
    let d : Decoder := ⟨[], [(6, [.zeroed 16 .unfragmented])], 2⟩
    c.fits = true ∧ (Content.listenerRequest .keyAndPredicate { r with predicate := none }).fits = false ∧
      ∃ m sent bytes arrived, c.encode = .ok m ∧ m.setCorrelation 7 = .ok sent ∧ usesFragmentId (some 60) sent ∧
        encodeMessage (some 60) 1 sent = .ok bytes ∧ d.drain bytes = ⟨[arrived], none, d, []⟩ ∧
        arrived.inspect (EntryListener.decodeRequest .keyAndPredicate) = .ok r := by
  intro name r c d
  obtain ⟨m, sent, encoded, set, arrives⟩ := (arrives_unless_misfit c 7).1 rfl
  have computed : (c.encode.bind (·.setCorrelation 7)).toOption.any
      (fun sent => sent.wireSize < 2 ^ 31 && usesFragmentId (some 60) sent) = true := by
    decide +kernel
  obtain ⟨small, cut⟩ : sent.wireSize < 2 ^ 31 ∧ usesFragmentId (some 60) sent := by
    simpa [encoded, set, Except.bind, Except.toOption] using computed
  obtain ⟨bytes, arrived, written, drained, reads, -⟩ :=
    arrives (some 60) 1 d small rfl (fun _ => rfl) (fun _ => by decide)
  exact ⟨rfl, rfl, m, sent, bytes, arrived, encoded, set, cut, written, drained, reads⟩

end Content
end Datagrid
