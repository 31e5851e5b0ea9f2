import RecordLocks.Audit.Event
import RecordLocks.Proofs.InstantText
import RecordLocks.Proofs.JsonData
import RecordLocks.Proofs.SettingsTables
import RecordLocks.Proofs.UuidText
namespace RecordLocks

namespace Coded

/-- A value that is decoded from what it is encoded as. -/
structure Kept {α : Type} [Coded α] (value : α) : Prop where
  whole : (encode value).Whole
  decoded : decode (encode value).document = some value

section Parts

open Json (Document)

theorem Kept.read_render {α : Type} [Coded α] {value : α} (kept : Kept value) :
    read (render value) = some value := by
  rw [read, render, kept.whole.read_render]
  exact kept.decoded

theorem kept_word (n : UInt64) : Kept n := by
  have small : (n.toNat : Int) < 2 ^ 64 := by
    have bound := n.toNat_lt
    omega
  have literal := Json.value?_integerLiteral (n := n.toNat) (by omega) small
  refine ⟨.integer _, ?_⟩
  show Document.word? (.number (Json.integerLiteral n.toNat)) = some n
  simp [Document.word?, literal]

theorem kept_text (text : String) : Kept text := ⟨.text text, rfl⟩

theorem kept_session (session : SessionId) : Kept session := by
  refine ⟨.integer _, ?_⟩
  have word : Document.word? (Json.word session.number).document = some session.number :=
    (kept_word session.number).decoded
  show (Document.word? (Json.word session.number).document).map SessionId.mk = some session
  rw [word]
  rfl

theorem kept_instant (instant : Instant) : Kept instant := by
  refine ⟨.text _, ?_⟩
  show (Document.text? (.text (some instant.text))).bind Instant.read = some instant
  simp only [Document.text?, Option.bind_some, instant.read_text]

theorem kept_uuid (uuid : Uuid) : Kept uuid := by
  refine ⟨.text _, ?_⟩
  show (Document.text? (.text (some uuid.text))).bind Uuid.read = some uuid
  simp only [Document.text?, Option.bind_some, uuid.read_text]

theorem kept_list {α : Type} [Coded α] {values : List α} (kept : ∀ value ∈ values, Kept value) :
    Kept values := by
  constructor
  · refine .array fun item member => ?_
    obtain ⟨value, inside, rfl⟩ := List.mem_map.mp member
    exact (kept value inside).whole
  · show (Json.itemDocuments (values.map encode)).mapM decode = some values
    induction values with
    | nil => rfl
    | cons value values ih =>
      have first := (kept value List.mem_cons_self).decoded
      have further := ih fun other member => kept other (List.mem_cons_of_mem value member)
      simp [Json.itemDocuments, first, further]

theorem kept_field (field : BookField) : Kept field := by
  cases field <;> exact ⟨.text _, rfl⟩

theorem kept_status (status : LockStatus) : Kept status := by
  cases status <;> exact ⟨.text _, rfl⟩

theorem kept_lockKind (kind : LockEventKind) : Kept kind := by
  cases kind <;> exact ⟨.text _, rfl⟩

theorem kept_sessionKind (kind : SessionEventKind) : Kept kind := by
  cases kind <;> exact ⟨.text _, rfl⟩

/-- A record is decoded from the parts that it is written as. -/
theorem decode_record {α : Type} [Coded α] {value : α} {members : List (String × Json)}
    {make : List (Option Document) → Option α} (written : encode value = .object members)
    (distinct : (members.map Prod.fst).Nodup)
    (decodes : ∀ document : Document,
      decode document = (document.fields? (members.map Prod.fst) false).bind make) :
    decode (encode value).document = make (members.map fun member => some member.2.document) := by
  rw [written, decodes, Json.fields?_document false distinct]
  rfl

theorem kept_record {α : Type} [Coded α] {value : α} {members : List (String × Json)}
    {make : List (Option Document) → Option α} (written : encode value = .object members)
    (distinct : (members.map Prod.fst).Nodup) (whole : ∀ member ∈ members, member.2.Whole)
    (decodes : ∀ document : Document,
      decode document = (document.fields? (members.map Prod.fst) false).bind make)
    (made : make (members.map fun member => some member.2.document) = some value) :
    Kept value :=
  ⟨written ▸ .object whole, (decode_record written distinct decodes).trans made⟩

theorem kept_book (book : Book) : Kept book := by
  have id := kept_word book.id
  have title := kept_text book.title
  have author := kept_text book.author
  have written : encode book = .object [("id", encode book.id), ("title", encode book.title),
    ("author", encode book.author)] := rfl
  refine kept_record written ?_ ?_ (fun _ => rfl) ?_
  · simp
  · simp only [List.forall_mem_cons]
    exact ⟨id.whole, title.whole, author.whole, by simp⟩
  · simp [id.decoded, title.decoded, author.decoded]

theorem kept_lockInfo (info : LockInfo) : Kept info := by
  have resource := kept_word info.resource
  have owner := kept_session info.owner
  have acquiredAt := kept_instant info.acquiredAt
  refine kept_record rfl ?_ ?_ (fun _ => rfl) ?_
  · simp
  · simp only [List.forall_mem_cons]
    exact ⟨resource.whole, owner.whole, acquiredAt.whole, by simp⟩
  · simp [resource.decoded, owner.decoded, acquiredAt.decoded]

theorem kept_sessionInfo (info : SessionInfo) : Kept info := by
  have id := kept_session info.id
  have user := kept_text info.user
  have checkedOut := kept_list fun resource (_ : resource ∈ info.checkedOut) => kept_word resource
  have createdAt := kept_instant info.createdAt
  refine kept_record rfl ?_ ?_ (fun _ => rfl) ?_
  · simp
  · simp only [List.forall_mem_cons]
    exact ⟨id.whole, user.whole, checkedOut.whole, createdAt.whole, by simp⟩
  · simp [id.decoded, user.decoded, checkedOut.decoded, createdAt.decoded]

/-- How a setting is kept in an object. -/
def settingJson : (key : SettingKey) → key.Content → Json
  | .filter, text | .title, text | .newTitle, text | .rivalTitle, text => .text text
  | .writeDelay, n | .readDelay, n | .bookId, n | .probeDelay, n | .settleDelay, n => .word n

theorem whole_settingJson (key : SettingKey) (content : key.Content) :
    (settingJson key content).Whole := by
  cases key with
  | filter | title | newTitle | rivalTitle => exact .text content
  | writeDelay | readDelay | bookId | probeDelay | settleDelay => exact .integer _

theorem read?_settingJson (key : SettingKey) (content : key.Content) :
    key.read? (settingJson key content).document = some content := by
  cases key with
  | filter | title | newTitle | rivalTitle => rfl
  | writeDelay | readDelay | bookId | probeDelay | settleDelay => exact (kept_word content).decoded

theorem kept_settings (settings : Settings) : Kept settings := by
  have whole := fun key => whole_settingJson key (settings.content key)
  constructor
  · refine .object ?_
    simp only [List.forall_mem_cons]
    refine ⟨.object ?_, .object ?_, .object ?_, by simp⟩
    · simp only [List.forall_mem_cons]
      exact ⟨whole .writeDelay, whole .readDelay, by simp⟩
    · simp only [List.forall_mem_cons]
      exact ⟨whole .filter, by simp⟩
    · simp only [List.forall_mem_cons]
      exact ⟨whole .bookId, whole .title, whole .newTitle, whole .rivalTitle, whole .probeDelay,
        whole .settleDelay, by simp⟩
  · exact Settings.readSettings_members read?_settingJson settings

end Parts

section Data

open Json (Document)

/-- What an event can keep as its data: none, or canonical data other than null, which nests one
level less than a document since the event is around it. -/
def Fits (data : Option Json) : Prop := ∀ value ∈ data, value.Canonical dataDepth ∧ value ≠ .null

/-- Data whose numbers are all whole, if there is any. -/
def HasWhole (data : Option Json) : Prop := ∀ value ∈ data, value.Whole

variable {data : Option Json}

theorem Fits.whole (fits : Fits data) : (data.getD .null).Whole := by
  cases data with
  | none => exact .null
  | some value => exact (fits value rfl).1.whole

theorem document_ne_null {value : Json} (whole : value.Whole) (other : value ≠ .null) :
    value.document ≠ .null := by
  cases whole <;> simp_all [Json.document]

theorem decodeData_value {document : Document} (other : document ≠ .null) :
    decodeData (some document) = (document.value? dataDepth).map some := by
  unfold decodeData
  split <;> simp_all

theorem Fits.decoded (fits : Fits data) :
    decodeData (some (data.getD .null).document) = some data := by
  cases data with
  | none => rfl
  | some value =>
    obtain ⟨canonical, other⟩ := fits value rfl
    rw [Option.getD_some, decodeData_value (document_ne_null canonical.whole other),
      canonical.value?_document]
    rfl

theorem fits_of_decodeData {document : Option Document} (decoded : decodeData document = some data)
    (whole : HasWhole data) : Fits data := by
  intro value inside
  cases Option.mem_def.mp inside
  -- Null is taken for missing data, so what gave this value was not null.
  have nonempty : ∃ there, document = some there ∧ there ≠ .null := by
    unfold decodeData at decoded
    split at decoded <;> simp_all
  obtain ⟨there, rfl, other⟩ := nonempty
  rw [decodeData_value other, Option.map_eq_some_iff] at decoded
  obtain ⟨value, read, same⟩ := decoded
  cases Option.some.inj same
  refine ⟨(whole value rfl).canonical read, ?_⟩
  rintro rfl
  cases Json.valued_of_value? read
  exact other rfl

section Events

variable {α β κ : Type} [Coded α] [Coded β] [Coded κ]

/-- An event is made from five parts, of which the data may be missing. -/
def eventOf? (make : Uuid → β → κ → Option Json → Instant → α) :
    List (Option Document) → Option α
  | [some id, some subject, some kind, data, some createdAt] => do
    return make (← decode id) (← decode subject) (← decode kind) (← decodeData data)
      (← decode createdAt)
  | _ => none

/-- How events of one sort are coded. They differ in what they are about. -/
structure EventForm (α β κ : Type) [Coded α] [Coded β] [Coded κ] where
  make : Uuid → β → κ → Option Json → Instant → α
  subject : String
  distinct : ["id", subject, "event_type", "data", "created_at"].Nodup
  encode_make : ∀ id about kind data time, encode (make id about kind data time) =
    .object [("id", encode id), (subject, encode about), ("event_type", encode kind),
      ("data", data.getD .null), ("created_at", encode time)]
  decode_eq : ∀ document : Document, decode document =
    (document.fields? ["id", subject, "event_type", "data", "created_at"] false).bind
      (eventOf? make)

def lockForm : EventForm LockEvent ResourceId LockEventKind :=
  ⟨LockEvent.mk, "resource", by decide, fun _ _ _ _ _ => rfl, fun _ => rfl⟩

def sessionForm : EventForm SessionEvent SessionId SessionEventKind :=
  ⟨SessionEvent.mk, "session_id", by decide, fun _ _ _ _ _ => rfl, fun _ => rfl⟩

def storedForm : EventForm StoredEvent String String :=
  ⟨StoredEvent.mk, "aggregate_id", by decide, fun _ _ _ _ _ => rfl, fun _ => rfl⟩

namespace EventForm

variable (form : EventForm α β κ) {about : β} {kind : κ} (id : Uuid) (time : Instant)

theorem whole_encode (subject : Kept about) (sort : Kept kind) (whole : (data.getD .null).Whole) :
    (encode (form.make id about kind data time)).Whole := by
  rw [form.encode_make]
  refine .object ?_
  simp only [List.forall_mem_cons]
  exact ⟨(kept_uuid id).whole, subject.whole, sort.whole, whole, (kept_instant time).whole, by simp⟩

/-- An event comes back with what its data are decoded as. -/
theorem decode_encode (subject : Kept about) (sort : Kept kind) (data : Option Json) :
    decode (encode (form.make id about kind data time)).document =
      (decodeData (some (data.getD .null).document)).map fun found =>
        form.make id about kind found time := by
  refine (decode_record (form.encode_make ..) form.distinct form.decode_eq).trans ?_
  simp only [List.map_cons, List.map_nil, eventOf?, (kept_uuid id).decoded, subject.decoded,
    sort.decoded, (kept_instant time).decoded, Option.bind_eq_bind, Option.bind_some,
    Option.pure_def]
  cases decodeData (some (data.getD .null).document) <;> rfl

theorem kept (subject : Kept about) (sort : Kept kind) (fits : Fits data) :
    Kept (form.make id about kind data time) := by
  refine ⟨form.whole_encode id time subject sort fits.whole, ?_⟩
  rw [form.decode_encode id time subject sort, fits.decoded]
  rfl

theorem made_of_decode {document : Document} {event : α} (decoded : decode document = some event) :
    ∃ id about kind data time, event = form.make id about kind data time ∧
      ∃ found, decodeData found = some data := by
  rw [form.decode_eq] at decoded
  obtain ⟨parts, -, made⟩ := Option.bind_eq_some_iff.mp decoded
  unfold eventOf? at made
  split at made
  · simp only [Option.bind_eq_bind, Option.bind_eq_some_iff, Option.pure_def,
      Option.some.injEq] at made
    obtain ⟨id, -, about, -, kind, -, data, found, time, -, rfl⟩ := made
    exact ⟨id, about, kind, data, time, rfl, _, found⟩
  · cases made

end EventForm

end Events

theorem kept_lockEvent {event : LockEvent} (fits : Fits event.data) : Kept event :=
  lockForm.kept event.id event.createdAt (kept_word event.resource) (kept_lockKind event.kind) fits

theorem kept_sessionEvent {event : SessionEvent} (fits : Fits event.data) : Kept event :=
  sessionForm.kept event.id event.createdAt (kept_session event.session)
    (kept_sessionKind event.kind) fits

theorem kept_storedEvent {event : StoredEvent} (fits : Fits event.data) : Kept event :=
  storedForm.kept event.id event.createdAt (kept_text event.aggregate) (kept_text event.kind) fits

theorem canonical_word (depth : Nat) (n : UInt64) : (Json.word n).Canonical depth := by
  have bound := n.toNat_lt
  exact .integer (by omega) (by omega)

/-- The particulars of an entry of the audit trail are kept. -/
theorem fits_notice {heldFor : Json} (canonical : ∀ depth, heldFor.Canonical depth)
    (notice : Notice) : Fits (some (notice.data heldFor)) := by
  have words := fun n => canonical_word (dataDepth - 1) n
  have inside : (notice.data heldFor).Canonical (dataDepth - 1 + 1) := by
    cases notice with
    | lockAcquired resource holder => exact .object (by simp) (by simp [Json.Canonical.text])
    | lockReleased resource holder =>
      have ascending : "duration_ms" < "holder_id" := by decide
      exact .object (List.pairwise_pair.mpr ascending) (by simp [Json.Canonical.text, canonical])
    | lockContention resource holder blocked =>
      have ascending : "blocked_holder" < "current_holder" := by decide
      exact .object (List.pairwise_pair.mpr ascending) (by simp [Json.Canonical.text])
    | sessionStarted session user => exact .object (by simp) (by simp [Json.Canonical.text])
    | sessionRemoved session released =>
      have listed : (Json.array (released.map .word)).Canonical (dataDepth - 2 + 1) :=
        .array (by simp [canonical_word])
      exact .object (by simp) (List.forall_mem_singleton.mpr listed)
    | committed session resource => exact .object (by simp) (by simp [words])
    | discarded session resource => exact .object (by simp) (by simp [words])
  intro value told
  cases Option.some.inj told
  refine ⟨inside, ?_⟩
  cases notice <;> simp [Notice.data]

end Data

/-- A text in the form in which it is written again after it has been read. -/
def rewritten? (α : Type) [Coded α] (text : String) : Option String :=
  (read text : Option α).map render

/-- What is read from a text is written so that it is read again, and then the same is written. -/
structure Stable (α : Type) [Coded α] (Within : α → Prop) : Prop where
  reread : ∀ text (value : α), read text = some value → Within value →
    read (render value) = some value
  settled : ∀ text (value : α), read text = some value → Within value →
    (rewritten? α text).bind (rewritten? α) = rewritten? α text

theorem Stable.of_kept {α : Type} [Coded α] {Within : α → Prop}
    (kept : ∀ document (value : α), decode document = some value → Within value → Kept value) :
    Stable α Within := by
  have reread : ∀ text (value : α), read text = some value → Within value →
      read (render value) = some value := by
    intro text value found within
    obtain ⟨document, -, decoded⟩ := Option.bind_eq_some_iff.mp found
    exact (kept document value decoded within).read_render
  refine ⟨reread, ?_⟩
  intro text value found within
  simp [rewritten?, found, reread text value found within]

end Coded

/-- The events about locks that are made. -/
inductive LockEvent.Made : LockEvent → Prop
  | acquired (id : Uuid) (time : Instant) (resource : ResourceId) (holder : SessionId) :
    Made (.acquired id time resource holder)
  | released (id : Uuid) (time : Instant) (resource : ResourceId) (holder : SessionId)
    (heldFor : UInt64) : Made (.released id time resource holder heldFor)
  | contention (id : Uuid) (time : Instant) (resource : ResourceId)
    (holder blocked : SessionId) : Made (.contention id time resource holder blocked)

/-- The events about sessions that are made, among them some with other data. -/
inductive SessionEvent.Made : SessionEvent → Prop
  | started (id : Uuid) (time : Instant) (session : SessionId) (user : String) :
    Made (.started id time session user)
  | removed (id : Uuid) (time : Instant) (session : SessionId) (released : List ResourceId) :
    Made (.removed id time session released)
  | committed (id : Uuid) (time : Instant) (session : SessionId) (resource : ResourceId) :
    Made (.committed id time session resource)
  | discarded (id : Uuid) (time : Instant) (session : SessionId) (resource : ResourceId) :
    Made (.discarded id time session resource)
  | other {id : Uuid} {session : SessionId} {kind : SessionEventKind} {data : Option Json}
    {time : Instant} (fits : Coded.Fits data) : Made ⟨id, session, kind, data, time⟩

theorem LockEvent.Made.fits {event : LockEvent} (made : event.Made) : Coded.Fits event.data := by
  cases made with
  | acquired | contention => exact Coded.fits_notice (fun _ => .null) _
  | released id time resource holder heldFor =>
    exact Coded.fits_notice (fun depth => Coded.canonical_word depth heldFor) _

theorem SessionEvent.Made.fits {event : SessionEvent} (made : event.Made) :
    Coded.Fits event.data := by
  cases made with
  | started | removed | committed | discarded => exact Coded.fits_notice (fun _ => .null) _
  | other fits => exact fits

namespace Coded

open Json (Document)

/-- No condition. -/
def Any {α : Type} (_ : α) : Prop := True

/-- What has been read from any text is read again from what it is written as, and texts that have
been written settle. Records, and the events that are made, are read again as they were. -/
theorem coding_is_inverse :
    (Stable Book Any ∧ Stable BookField Any ∧
      Stable SessionId Any ∧ Stable SessionInfo Any ∧
      Stable LockInfo Any ∧ Stable LockStatus Any ∧
      Stable LockEventKind Any ∧ Stable SessionEventKind Any ∧
      Stable Settings Any ∧ Stable LockEvent (fun event => HasWhole event.data) ∧
      Stable SessionEvent (fun event => HasWhole event.data) ∧
      Stable StoredEvent (fun event => HasWhole event.data)) ∧
    (∀ book : Book, read (render book) = some book) ∧
    (∀ info : SessionInfo, read (render info) = some info) ∧
    (∀ info : LockInfo, read (render info) = some info) ∧
    (∀ settings : Settings, read (render settings) = some settings) ∧
    (∀ event : LockEvent, event.Made → read (render event) = some event ∧
      ∀ id, read (render (StoredEvent.ofEvent id event)) = some (StoredEvent.ofEvent id event)) ∧
    (∀ event : SessionEvent, event.Made → read (render event) = some event ∧
      ∀ id, read (render (StoredEvent.ofEvent id event)) =
        some (StoredEvent.ofEvent id event)) := by
  have lockEvents : Stable LockEvent fun event => HasWhole event.data :=
    .of_kept fun document event decoded whole => by
      obtain ⟨id, about, kind, data, time, rfl, found, told⟩ := lockForm.made_of_decode decoded
      exact kept_lockEvent (fits_of_decodeData told whole)
  have sessionEvents : Stable SessionEvent fun event => HasWhole event.data :=
    .of_kept fun document event decoded whole => by
      obtain ⟨id, about, kind, data, time, rfl, found, told⟩ := sessionForm.made_of_decode decoded
      exact kept_sessionEvent (fits_of_decodeData told whole)
  have storedEvents : Stable StoredEvent fun event => HasWhole event.data :=
    .of_kept fun document event decoded whole => by
      obtain ⟨id, about, kind, data, time, rfl, found, told⟩ := storedForm.made_of_decode decoded
      exact kept_storedEvent (fits_of_decodeData told whole)
  refine ⟨⟨.of_kept fun _ book _ _ => kept_book book, .of_kept fun _ field _ _ => kept_field field,
    .of_kept fun _ id _ _ => kept_session id, .of_kept fun _ info _ _ => kept_sessionInfo info,
    .of_kept fun _ info _ _ => kept_lockInfo info, .of_kept fun _ status _ _ => kept_status status,
    .of_kept fun _ kind _ _ => kept_lockKind kind, .of_kept fun _ kind _ _ => kept_sessionKind kind,
    .of_kept fun _ settings _ _ => kept_settings settings, lockEvents, sessionEvents,
    storedEvents⟩, fun book => (kept_book book).read_render,
    fun info => (kept_sessionInfo info).read_render, fun info => (kept_lockInfo info).read_render,
    fun settings => (kept_settings settings).read_render, ?_, ?_⟩
  · intro event made
    have stored : ∀ id, Kept (StoredEvent.ofEvent id event) := fun _ => kept_storedEvent made.fits
    exact ⟨(kept_lockEvent made.fits).read_render, fun id => (stored id).read_render⟩
  · intro event made
    have stored : ∀ id, Kept (StoredEvent.ofEvent id event) := fun _ => kept_storedEvent made.fits
    exact ⟨(kept_sessionEvent made.fits).read_render, fun id => (stored id).read_render⟩

/-- Arrays inside each other. -/
def nested : Nat → Json
  | 0 => .null
  | depth + 1 => .array [nested depth]

theorem whole_nested (depth : Nat) : (nested depth).Whole := by
  induction depth with
  | zero => exact .null
  | succ depth ih => exact .array (List.forall_mem_singleton.mpr ih)

/-- Nothing is read that nests deeper than the limit. -/
theorem value?_nested (depth : Nat) : (nested (depth + 1)).document.value? depth = none := by
  induction depth with
  | zero => simp [nested, Json.document, Document.value?]
  | succ depth ih =>
    rw [nested]
    simp [Json.document, Json.itemDocuments, Document.value?, Json.itemsValue?, ih]

/-- An event with data of its own. -/
def startedWith (data : Option Json) : SessionEvent :=
  ⟨⟨List.replicate 32 ⟨0, by decide⟩, rfl⟩, ⟨1⟩, .started, data, .epoch⟩

theorem read_render_startedWith {data : Json} (whole : data.Whole) (other : data ≠ .null)
    (tooDeep : data.document.value? dataDepth = none) :
    (read (render (startedWith (some data))) : Option SessionEvent) = none := by
  let event := startedWith (some data)
  have session := kept_session event.session
  have kind := kept_sessionKind event.kind
  have written : (encode event).Whole :=
    sessionForm.whole_encode event.id event.createdAt session kind whole
  have decoded := sessionForm.decode_encode event.id event.createdAt session kind (some data)
  rw [Option.getD_some, decodeData_value (document_ne_null whole other), tooDeep] at decoded
  rw [read, render, written.read_render, Option.bind_some]
  exact decoded

/-- Null is not kept apart from missing data, and data that nests too deep is not read. -/
theorem null_and_deep_data_are_lost :
    (startedWith (some .null)).data ≠ none ∧
      read (render (startedWith (some .null))) = some (startedWith none) ∧
      (nested 127).Whole ∧
      (read (render (startedWith (some (nested 127)))) : Option SessionEvent) = none := by
  have empty : Fits (startedWith none).data := by simp [Fits, startedWith]
  have other : ∀ depth, nested (depth + 1) ≠ .null := by simp [nested]
  have written : encode (startedWith (some .null)) = encode (startedWith none) := rfl
  refine ⟨by simp [startedWith], ?_, whole_nested 127,
    read_render_startedWith (whole_nested 127) (other 126) (value?_nested 126)⟩
  rw [render, written]
  exact (kept_sessionEvent empty).read_render

/-- A lock in an unusual layout, from a clock that is an hour and a half behind. -/
def oddLock : String :=
  "\x7b \"owner\":1, \"note\":[1.5],\n \"acquired_at\" : \"1999-12-31t22:30:60.25-01:30\"," ++
    "\"\\u0072esource\":18446744073709551615\x7d"

theorem coding_is_inverse_of_oddLock :
    ∃ info : LockInfo, read oddLock = some info ∧
      render info = "\x7b\"resource\":18446744073709551615,\"owner\":1," ++
        "\"acquired_at\":\"2000-01-01T00:00:60.250Z\"\x7d" ∧
      read (render info) = some info := by
  let info : LockInfo :=
    ⟨18446744073709551615, ⟨1⟩, ⟨⟨2000, 1, 1, by decide⟩, 59, 1250000000, by decide⟩⟩
  have found : read oddLock = some info := by decide +kernel
  obtain ⟨⟨-, -, -, -, locks, -⟩, -⟩ := coding_is_inverse
  exact ⟨info, found, by decide +kernel, locks.reread oddLock info found trivial⟩

end Coded

end RecordLocks
