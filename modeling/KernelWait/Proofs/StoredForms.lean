import KernelWait.Proofs.BitNames
import KernelWait.Proofs.JsonText
import KernelWait.Stored.Refusals
import KernelWait.Stored.Settings
import KernelWait.Stored.Watches

/-!
# Reading stored values back

What is stored is written by one set of functions and read by another, type by type. A type is lossless if
they agree (`Stored.Lossless`): most of the stored types are so in all their values (`Stored.Whole`), and
those that hold a count in all values whose count fits into a word. Durations are stored in whole
microseconds.

**Every stored value is read back from its text**, and whatever text a value is read from, its own text
settles it (`Stored.reads_back`).
-/

namespace KernelWait

namespace Json

/-! ## Shapes -/

@[simp] theorem textOf?_pieces (s : String) : textOf? (pieces s) = some s := by
  have hchars : ∀ cs : List Char, (cs.map Piece.char).mapM char? = some cs := by
    intro cs
    induction cs with
    | nil => rfl
    | cons c cs ih =>
      rw [List.map_cons, List.mapM_cons, ih]
      rfl
  rw [textOf?, pieces, hchars, Option.map_some, String.ofList_toList]

@[simp] theorem text?_text (s : String) : (text s).text? = some s := textOf?_pieces s

@[simp] theorem choice?_text (s : String) : (text s).choice? = some s := textOf?_pieces s

theorem natBelow?_nat {bound n : Nat} (h : n < bound) : (nat n).natBelow? bound = some n := by
  rw [natBelow?, nat, intBetween?, if_pos ⟨Int.natCast_nonneg n, Int.ofNat_lt.2 h⟩]
  rfl

theorem lt_of_natBelow? {bound n : Nat} {j : Json} (h : j.natBelow? bound = some n) :
    n < bound := by
  obtain ⟨i, hi, rfl⟩ := Option.map_eq_some_iff.1 h
  cases j with
  | int value =>
    rw [intBetween?] at hi
    split at hi
    · cases hi
      omega
    · cases hi
  | _ => cases hi

@[simp] theorem named?_members (fields : List (String × Json)) :
    named? (members fields) = some fields := by
  rw [named?]
  induction fields with
  | nil => rfl
  | cons field fields ih =>
    rw [members] at ih ⊢
    rw [List.map_cons, List.mapM_cons, textOf?_pieces, ih]
    rfl

/-- Among distinct names a field is the only one with its own. -/
theorem only?_of_mem {fields : List (String × Json)} (h : (fields.map Prod.fst).Nodup)
    {field : String × Json} (hfield : field ∈ fields) : only? field.1 fields = some field.2 := by
  obtain ⟨before, after, rfl⟩ := List.append_of_mem hfield
  rw [List.map_append, List.map_cons, List.nodup_append, List.nodup_cons] at h
  obtain ⟨-, ⟨hafter, -⟩, hbefore⟩ := h
  -- what stands before it and after it goes by other names
  have hno : ∀ others : List (String × Json), (∀ f ∈ others, f.1 ≠ field.1) →
      others.filter (·.1 == field.1) = [] := fun others hothers =>
    List.filter_eq_nil_iff.2 fun f hf hsame => hothers f hf (beq_iff_eq.1 hsame)
  have hown : (field :: after).filter (·.1 == field.1) =
      field :: after.filter (·.1 == field.1) :=
    List.filter_cons_of_pos (beq_self_eq_true field.1)
  rw [only?, List.filter_append, hown,
    hno before fun f hf => hbefore f.1 (List.mem_map_of_mem hf) field.1 List.mem_cons_self,
    hno after fun f hf hsame => hafter (hsame ▸ List.mem_map_of_mem hf)]
  rfl

/-- The fields of a record are found under their names. -/
theorem fields?_record {fields : List (String × Json)} {names : List String}
    (hnames : fields.map Prod.fst = names) (h : names.Nodup) :
    (record fields).fields? names = some (fields.map Prod.snd) := by
  subst hnames
  have hpart : ∀ part : List (String × Json), (∀ f ∈ part, f ∈ fields) →
      (part.map Prod.fst).mapM (only? · fields) = some (part.map Prod.snd) := by
    intro part hsub
    induction part with
    | nil => rfl
    | cons f part ih =>
      rw [List.map_cons, List.mapM_cons, only?_of_mem h (hsub f List.mem_cons_self),
        ih fun g hg => hsub g (List.mem_cons_of_mem f hg)]
      rfl
  rw [record_eq, fields?, named?_members, Option.bind_some, hpart fields fun f hf => hf]

/-- A tag and its content are found under their two names. -/
theorem tagged?_tag {tagName contentName : String} (h : contentName ≠ tagName) (name : String)
    (content : Option Json) :
    (tag tagName contentName name content).tagged? tagName contentName = some (name, content) := by
  have htag : (tagName == contentName) = false := beq_eq_false_iff_ne.2 h.symm
  have hcontent : (contentName == tagName) = false := beq_eq_false_iff_ne.2 h
  rw [tag, record_eq]
  cases content with
  | none => simp [tagged?, only?, htag]
  | some content => simp [tagged?, only?, htag, hcontent]

theorem plain_tag (tagName contentName name : String) {content : Option Json}
    (h : ∀ c ∈ content, c.Plain) : (tag tagName contentName name content).Plain := by
  refine .record _ fun field hfield => ?_
  rcases List.mem_cons.1 hfield with rfl | hfield
  · exact .text name
  · obtain ⟨c, hc, rfl⟩ := Option.map_eq_some_iff.1 (Option.mem_toList.1 hfield)
    exact h c hc

@[simp] theorem content?_record (name : String) (value : Json) :
    (record [(name, value)]).content? = some (name, value) := by
  rw [record_eq, members, List.map_singleton, content?, textOf?_pieces]
  rfl

end Json

namespace Stored

variable {α : Type}

/-! ## Types without loss -/

/-- A type of which every value that fits is read back, and every value that is read fits. -/
structure Lossless (α : Type) [Stored α] (fits : α → Prop) : Prop where
  /-- a value that fits is read back from its text -/
  readsBack : ∀ a, fits a → ofText? (text a) = some a
  /-- what is read from a text fits -/
  ranged : ∀ s a, ofText? s = some a → fits a
  /-- what is read from a text is read back from its own text, and written again as it was -/
  settles : ∀ s (a : α), ofText? s = some a →
    ofText? (text a) = some a ∧ canonical? α (text a) = some (text a)

/-- The text adds no loss to that of the JSON values. -/
theorem Lossless.of_json [Stored α] {fits : α → Prop} (hplain : ∀ a : α, (toJson a).Plain)
    (hback : ∀ a, fits a → ofJson? (toJson a) = some a)
    (hranged : ∀ j a, ofJson? j = some a → fits a) : Lossless α fits := by
  have hreads : ∀ a, fits a → ofText? (text a) = some a := by
    intro a ha
    rw [ofText?, text, (hplain a).ofText?_render, Option.bind_some, hback a ha]
  have hfits : ∀ s a, ofText? s = some a → fits a := by
    intro s a h
    obtain ⟨j, -, hj⟩ := Option.bind_eq_some_iff.1 h
    exact hranged j a hj
  refine ⟨hreads, hfits, fun s a h => ?_⟩
  have hread := hreads a (hfits s a h)
  exact ⟨hread, by rw [canonical?, hread, Option.map_some]⟩

/-- Types of which every value is read back from the JSON value that stands for it. -/
class Whole (α : Type) [Stored α] : Prop where
  /-- the JSON values are plain -/
  plain : ∀ a : α, (toJson a).Plain
  /-- and are read back -/
  back : ∀ a : α, ofJson? (toJson a) = some a

attribute [simp] Json.Plain.text Whole.plain Whole.back

theorem Whole.lossless [Stored α] [Whole α] : Lossless α fun _ => True :=
  .of_json Whole.plain (fun a _ => Whole.back a) fun _ _ _ => trivial

/-! ## Plain values -/

instance : Whole String where
  plain := .text
  back := Json.text?_text

/-- Words that stand for natural numbers are read back. -/
theorem whole_unsigned {size : Nat} {toNat : α → Nat} {ofNat : Nat → α}
    (hlt : ∀ n, toNat n < size) (h : ∀ n, ofNat (toNat n) = n) :
    @Whole α ⟨fun n => .nat (toNat n), fun j => (j.natBelow? size).map ofNat⟩ :=
  letI : Stored α := ⟨fun n => .nat (toNat n), fun j => (j.natBelow? size).map ofNat⟩
  { plain := fun _ => .int _
    back := fun n => by
      change ((Json.nat (toNat n)).natBelow? size).map ofNat = some n
      rw [Json.natBelow?_nat (hlt n), Option.map_some, h] }

instance : Whole UInt8 := whole_unsigned UInt8.toNat_lt fun _ => UInt8.ofNat_toNat

instance : Whole UInt16 := whole_unsigned UInt16.toNat_lt fun _ => UInt16.ofNat_toNat

instance : Whole UInt32 := whole_unsigned UInt32.toNat_lt fun _ => UInt32.ofNat_toNat

instance : Whole UInt64 := whole_unsigned UInt64.toNat_lt fun _ => UInt64.ofNat_toNat

/-- Words that stand for integers are read back. -/
theorem whole_signed {low high : Int} {toInt : α → Int} {ofInt : Int → α}
    (hrange : ∀ n, low ≤ toInt n ∧ toInt n < high) (h : ∀ n, ofInt (toInt n) = n) :
    @Whole α ⟨fun n => .int (toInt n), fun j => (j.intBetween? low high).map ofInt⟩ :=
  letI : Stored α := ⟨fun n => .int (toInt n), fun j => (j.intBetween? low high).map ofInt⟩
  { plain := fun _ => .int _
    back := fun n => by
      change ((Json.int (toInt n)).intBetween? low high).map ofInt = some n
      rw [Json.intBetween?, if_pos (hrange n), Option.map_some, h] }

instance : Whole Int32 := whole_signed (fun n => ⟨n.le_toInt, n.toInt_lt⟩) Int32.ofInt_toInt

instance : Whole Int64 := whole_signed (fun n => ⟨n.le_toInt, n.toInt_lt⟩) Int64.ofInt_toInt

instance [Stored α] [Whole α] : Whole (List α) where
  plain items := by
    refine .array _ fun item hitem => ?_
    obtain ⟨a, -, rfl⟩ := List.mem_map.1 hitem
    exact Whole.plain a
  back items := by
    change (items.map toJson).mapM ofJson? = some items
    induction items with
    | nil => rfl
    | cons a items ih =>
      rw [List.map_cons, List.mapM_cons, ih, Whole.back]
      rfl

/-- Counts are read back if they fit into a word, and only those are read. -/
theorem ofJson?_nat {n : Nat} (h : n < UInt64.size) : ofJson? (toJson n) = some n :=
  Json.natBelow?_nat h

theorem lt_of_ofJson?_nat {j : Json} {n : Nat} (h : ofJson? j = some n) : n < UInt64.size :=
  Json.lt_of_natBelow? h

theorem plain_nat (n : Nat) : (toJson n).Plain := .int _

/-- Durations are read back if they are whole microseconds for which a word is enough, and only those are
read. -/
theorem ofJson?_duration {d : Duration} (h : d.Fits) : ofJson? (toJson d) = some d := by
  have hread : (ofJson? (toJson d.micros)).map Duration.ofMicros = some d := by
    rw [Whole.back, Option.map_some, Duration.ofMicros_micros h]
  exact hread

theorem fits_of_ofJson?_duration {j : Json} {d : Duration} (h : ofJson? j = some d) : d.Fits := by
  obtain ⟨micros, -, rfl⟩ := Option.map_eq_some_iff.1 h
  exact Duration.fits_ofMicros micros

theorem plain_duration (d : Duration) : (toJson d).Plain := Whole.plain d.micros

/-! ## Names and sets of bits -/

/-- Values with names of their own are read back by name. -/
theorem whole_byName {name : α → String} {ofName? : String → Option α}
    (h : ∀ a, ofName? (name a) = some a) : @Whole α (byName name ofName?) :=
  letI := byName name ofName?
  { plain := fun _ => .text _
    back := fun a => by
      change (Json.text (name a)).choice?.bind ofName? = some a
      rw [Json.choice?_text, Option.bind_some, h] }

instance : Whole Strategy := whole_byName fun s => by cases s <;> rfl

instance : Whole Signal := whole_byName fun s => by cases s <;> rfl

instance : Whole Kind := whole_byName fun k => by cases k <;> rfl

instance : Whole Status := whole_byName fun s => by cases s <;> rfl

/-- Values with texts of their own are read back by text. -/
theorem whole_byText {text : α → List Char} {ofText? : List Char → Option α}
    (h : ∀ a, ofText? (text a) = some a) :
    @Whole α ⟨fun a => .text (String.ofList (text a)),
      fun j => j.text?.bind fun s => ofText? s.toList⟩ :=
  letI : Stored α := ⟨fun a => .text (String.ofList (text a)),
    fun j => j.text?.bind fun s => ofText? s.toList⟩
  { plain := fun _ => .text _
    back := fun a => by
      change (Json.text (String.ofList (text a))).text?.bind (fun s => ofText? s.toList) = some a
      rw [Json.text?_text, Option.bind_some, String.toList_ofList, h] }

instance : Whole Events := whole_byText Events.ofText?_text

instance : Whole Flags := whole_byText Flags.ofText?_text

/-! ## Records -/

/-- A record is read by its fields. -/
theorem ofJson?_record [Stored α] {fields : List (String × Json)} {names : List String}
    {build : List Json → Option α} (hread : ∀ j, ofJson? j = (j.fields? names).bind build)
    (hnames : fields.map Prod.fst = names) (h : names.Nodup) :
    ofJson? (Json.record fields) = build (fields.map Prod.snd) := by
  rw [hread, Json.fields?_record hnames h, Option.bind_some]

instance : Whole PendingSignal where
  plain p := .record _ (by simp)
  back p := (ofJson?_record (fun _ => rfl) rfl (by simp)).trans (by simp)

instance : Whole Message where
  plain m := .record _ (by simp)
  back m := (ofJson?_record (fun _ => rfl) rfl (by simp)).trans (by simp)

instance : Whole Watch where
  plain w := .record _ (by simp)
  back w := (ofJson?_record (fun _ => rfl) rfl (by simp)).trans (by simp)

instance : Whole RawEntry where
  plain e := .record _ (by simp)
  back e := (ofJson?_record (fun _ => rfl) rfl (by simp)).trans (by simp)

instance : Whole Statistics where
  plain s := .record _ (by simp)
  back s := (ofJson?_record (fun _ => rfl) rfl (by simp)).trans (by simp)

/-! ## Choices -/

@[simp] theorem filled?_toJson {β : Type} [Stored β] [Whole β] (choice : β → α) (b : β) :
    filled? choice (some (toJson b)) = some (choice b) := by
  rw [filled?, Option.bind_some, Whole.back, Option.map_some]

theorem filled?_nat (choice : Nat → α) {n : Nat} (h : n < UInt64.size) :
    filled? choice (some (toJson n)) = some (choice n) := by
  rw [filled?, Option.bind_some, ofJson?_nat h, Option.map_some]

theorem eq_of_filled? {β : Type} [Stored β] {choice : β → α} {content : Option Json} {a : α}
    (h : filled? choice content = some a) : ∃ j b, ofJson? j = some b ∧ a = choice b := by
  obtain ⟨b, hb, rfl⟩ := Option.map_eq_some_iff.1 h
  obtain ⟨j, -, hj⟩ := Option.bind_eq_some_iff.1 hb
  exact ⟨j, b, hj, rfl⟩

@[simp] theorem bare?_none (choice : α) : bare? choice none = some choice := rfl

theorem eq_of_bare? {choice a : α} {content : Option Json}
    (h : bare? choice content = some a) : a = choice := by
  rw [bare?] at h
  split at h
  · exact (Option.some.inj h).symm
  · cases h

@[simp] theorem cause?_cause (name : String) (content : Option Json) :
    cause? (cause name content) = some (name, content) :=
  Json.tagged?_tag (by decide) name content

instance : Whole SignalError where
  plain e := by
    cases e <;> exact .record _ (by simp)
  back e := by
    delta instStoredSignalError
    cases e <;> simp

instance : Whole ObjectError where
  plain e := by
    cases e <;> exact Json.plain_tag _ _ _ (by simp)
  back e := by
    delta instStoredObjectError
    cases e <;> simp

end Stored

/-! ## Values with counts -/

open Stored

/-- Whether the count of a refusal fits into a word. -/
def WaitError.Fits : WaitError → Prop
  | noValidTargets count => count < UInt64.size
  | _ => True

theorem WaitError.fits_of_ofJson? {j : Json} {e : WaitError} (h : ofJson? j = some e) :
    e.Fits := by
  delta instStoredWaitError at h
  dsimp only at h
  split at h
  · obtain ⟨_, _, -, rfl⟩ := eq_of_filled? h
    trivial
  · rw [eq_of_bare? h]
    trivial
  · obtain ⟨_, count, hcount, rfl⟩ := eq_of_filled? h
    exact lt_of_ofJson?_nat hcount
  · obtain ⟨_, _, -, rfl⟩ := eq_of_filled? h
    trivial
  · cases h

theorem WaitError.lossless : Lossless WaitError Fits :=
  .of_json
    (fun e => by cases e <;> exact Json.plain_tag _ _ _ (by simp [plain_nat]))
    (fun e hfits => by
      delta instStoredWaitError
      cases e with
      | noValidTargets count => simp [filled?_nat _ hfits]
      | _ => simp)
    fun _ _ => fits_of_ofJson?

/-- Whether the count of an outcome fits into a word. -/
def Outcome.Fits : Outcome → Prop
  | ready count => count < UInt64.size
  | timedOut => True

theorem Outcome.fits_of_ofJson? {j : Json} {o : Outcome} (h : ofJson? j = some o) : o.Fits := by
  delta instStoredOutcome at h
  dsimp only at h
  split at h
  · obtain ⟨_, count, hcount, rfl⟩ := eq_of_filled? h
    exact lt_of_ofJson?_nat hcount
  · rw [eq_of_bare? h]
    trivial
  · cases h

theorem Outcome.lossless : Lossless Outcome Fits :=
  .of_json
    (fun o => by cases o <;> exact Json.plain_tag _ _ _ (by simp [plain_nat]))
    (fun o hfits => by
      delta instStoredOutcome
      cases o with
      | ready count => simp [Json.tagged?_tag, filled?_nat _ hfits]
      | timedOut => simp [Json.tagged?_tag])
    fun _ _ => fits_of_ofJson?

/-- Whether the spin duration of a setting is a whole number of microseconds that fits into a word. -/
def SyncConfig.Fits (c : SyncConfig) : Prop := c.spin.Fits

theorem SyncConfig.plain (c : SyncConfig) : (toJson c).Plain :=
  .record _ (by simp [plain_duration])

theorem SyncConfig.ofJson?_toJson {c : SyncConfig} (h : c.Fits) : ofJson? (toJson c) = some c :=
  (ofJson?_record (fun _ => rfl) rfl (by simp)).trans (by simp [ofJson?_duration h])

theorem SyncConfig.fits_of_ofJson? {j : Json} {c : SyncConfig} (h : ofJson? j = some c) :
    c.Fits := by
  obtain ⟨values, -, hvalues⟩ := Option.bind_eq_some_iff.1 h
  split at hvalues
  · simp only [Option.bind_eq_bind, Option.bind_eq_some_iff] at hvalues
    obtain ⟨strategy, -, spin, hspin, spins, -, hc⟩ := hvalues
    cases hc
    exact fits_of_ofJson?_duration hspin
  · cases hvalues

theorem SyncConfig.lossless : Lossless SyncConfig Fits :=
  .of_json plain (fun _ => ofJson?_toJson) fun _ _ => fits_of_ofJson?

/-- Whether the object limit of a configuration fits into a word, and its spin duration too. -/
def WaitConfig.Fits (c : WaitConfig) : Prop := c.maxObjects < UInt64.size ∧ c.sync.Fits

theorem WaitConfig.fits_of_ofJson? {j : Json} {c : WaitConfig} (h : ofJson? j = some c) :
    c.Fits := by
  obtain ⟨values, -, hvalues⟩ := Option.bind_eq_some_iff.1 h
  split at hvalues
  · simp only [Option.bind_eq_bind, Option.bind_eq_some_iff] at hvalues
    obtain ⟨limit, hlimit, sync, hsync, hc⟩ := hvalues
    cases hc
    exact ⟨lt_of_ofJson?_nat hlimit, SyncConfig.fits_of_ofJson? hsync⟩
  · cases hvalues

theorem WaitConfig.lossless : Lossless WaitConfig Fits :=
  .of_json (fun c => .record _ (by simp [plain_nat, SyncConfig.plain]))
    (fun c hfits => (ofJson?_record (fun _ => rfl) rfl (by simp)).trans
      (by simp [ofJson?_nat hfits.1, SyncConfig.ofJson?_toJson hfits.2]))
    fun _ _ => fits_of_ofJson?

/-- Whether the count of pending signals fits into a word; the other counts are words. -/
def SignalStats.Fits (s : SignalStats) : Prop := s.pending < UInt64.size

theorem SignalStats.fits_of_ofJson? {j : Json} {s : SignalStats} (h : ofJson? j = some s) :
    s.Fits := by
  obtain ⟨values, -, hvalues⟩ := Option.bind_eq_some_iff.1 h
  split at hvalues
  · simp only [Option.bind_eq_bind, Option.bind_eq_some_iff] at hvalues
    obtain ⟨sent, -, delivered, -, interrupted, -, pending, hpending, hs⟩ := hvalues
    cases hs
    exact lt_of_ofJson?_nat hpending
  · cases hvalues

theorem SignalStats.lossless : Lossless SignalStats Fits :=
  .of_json (fun s => .record _ (by simp [plain_nat]))
    (fun s hfits =>
      (ofJson?_record (fun _ => rfl) rfl (by simp)).trans (by simp [ofJson?_nat hfits]))
    fun _ _ => fits_of_ofJson?

/-! ## All stored types -/

namespace Stored

/-- **Every stored value is read back from its text**: whatever is read from a text is read as the same from
its own text, and written as the same again. Nothing is lost of any type; the counts that are kept
as natural numbers have to fit into a word, and durations have to be whole microseconds that do. -/
theorem reads_back :
    Lossless WaitError WaitError.Fits ∧ Lossless ObjectError (fun _ => True) ∧
      Lossless SignalError (fun _ => True) ∧ Lossless Strategy (fun _ => True) ∧
      Lossless SyncConfig SyncConfig.Fits ∧ Lossless WaitConfig WaitConfig.Fits ∧
      Lossless Kind (fun _ => True) ∧ Lossless Events (fun _ => True) ∧
      Lossless Flags (fun _ => True) ∧ Lossless Status (fun _ => True) ∧
      Lossless Watch (fun _ => True) ∧ Lossless Outcome Outcome.Fits ∧
      Lossless Message (fun _ => True) ∧ Lossless Signal (fun _ => True) ∧
      Lossless PendingSignal (fun _ => True) ∧ Lossless SignalStats SignalStats.Fits ∧
      Lossless RawEntry (fun _ => True) ∧ Lossless Statistics (fun _ => True) :=
  ⟨WaitError.lossless, Whole.lossless, Whole.lossless, Whole.lossless, SyncConfig.lossless,
    WaitConfig.lossless, Whole.lossless, Whole.lossless, Whole.lossless, Whole.lossless,
    Whole.lossless, Outcome.lossless, Whole.lossless, Whole.lossless, Whole.lossless,
    SignalStats.lossless, Whole.lossless, Whole.lossless⟩

/-- A refusal with a text full of characters that must be escaped; a set of events with a bit that has no
name; and an outcome that is read from another form than the one in which it is written. -/
theorem reads_back_odd_forms :
    let e : WaitError := .invalidArgument "\"\\\n\x01é"
    let events : Events := ⟨0x4001⟩
    text events = "\"READ | 0x4000\"" ∧ ofText? (text events) = some events ∧
      ofText? (text e) = some e ∧
      ofText? " [\"ready\", 3]" = some (Outcome.ready 3) ∧
      text (Outcome.ready 3) = "\x7b\"outcome\":\"ready\",\"count\":3\x7d" ∧
      ofText? (text (Outcome.ready 3)) = some (Outcome.ready 3) := by
  intro e events
  obtain ⟨herror, -, -, -, -, -, -, hevents, -, -, -, houtcome, -⟩ := reads_back
  have hread : ofText? " [\"ready\", 3]" = some (Outcome.ready 3) := by decide +kernel
  exact ⟨by decide +kernel, hevents.readsBack events trivial, herror.readsBack e trivial, hread,
    by decide +kernel, (houtcome.settles _ _ hread).1⟩

end Stored

end KernelWait
