import KernelWait.Json.Reader
import Mathlib.Data.List.Basic

/-!
# Reading JSON text back

The text of a value is read back from the front: each reader takes exactly what its writer put there and
leaves what follows it. A number alone has no end of its own, so what follows must not carry it on
(`Json.Ends`). Left out are halves of surrogate pairs, which no proper text holds, and numbers that are
kept as numerals.

**The text of a plain value is read as that value** (`Json.Plain.ofText?_render`).
-/

namespace KernelWait

namespace Text

/-! ## Numerals -/

theorem isDigit_of_mem_decimal {n : Nat} {c : Char} (h : c ∈ decimal n) : c.isDigit :=
  Nat.isDigit_of_mem_toDigits (by decide) (by decide) h

theorem exists_digit_decimal (n : Nat) : ∃ c cs, decimal n = c :: cs ∧ c.isDigit := by
  obtain ⟨c, cs, h⟩ : ∃ c cs, decimal n = c :: cs :=
    List.exists_cons_of_ne_nil (toDigits_ne_nil (by decide) n)
  exact ⟨c, cs, h, isDigit_of_mem_decimal (h ▸ List.mem_cons_self)⟩

/-- Only zero is written with a zero in front. -/
theorem head?_decimal {n : Nat} (hn : 0 < n) : (decimal n).head? ≠ some '0' := by
  induction n using Nat.strongRecOn with
  | _ n ih =>
    rw [decimal, Nat.toDigits_eq_if (by decide)]
    split
    · next hlt =>
      have hdigit : ∀ d < 10, 0 < d → d.digitChar ≠ '0' := by decide
      exact fun hzero => hdigit n hlt hn (Option.some.inj hzero)
    · next hge =>
      have hsmaller : n / 10 < n := Nat.div_lt_self hn (by decide)
      rw [List.head?_append_of_ne_nil _ (toDigits_ne_nil (by decide) _)]
      exact ih _ hsmaller (Nat.div_pos (Nat.not_lt.1 hge) (by decide))

/-- An integer begins with a digit or a minus sign. -/
theorem exists_start_decimalInt (i : Int) :
    ∃ c cs, decimalInt i = c :: cs ∧ (c.isDigit ∨ c = '-') := by
  cases i with
  | ofNat n =>
    obtain ⟨c, cs, h, hc⟩ := exists_digit_decimal n
    exact ⟨c, cs, h, .inl hc⟩
  | negSucc n => exact ⟨'-', _, rfl, .inr rfl⟩

end Text

namespace Json

theorem isWhole_decimal (n : Nat) : isWhole (Text.decimal n) := by
  rcases Nat.eq_zero_or_pos n with rfl | hn
  · rfl
  · obtain ⟨c, cs, h, -⟩ := Text.exists_digit_decimal n
    have hc : c ≠ '0' := by
      rintro rfl
      exact Text.head?_decimal hn (congrArg List.head? h)
    rw [h, isWhole]
    · exact bne_iff_ne.2 hc
    · rintro ⟨⟩
      exact absurd rfl hc

/-- What may follow a value: nothing that would carry a number on. -/
def Ends (rest : List Char) : Prop :=
  ∀ c ∈ rest.head?, c.isDigit = false ∧ c ≠ '.' ∧ c ≠ 'e' ∧ c ≠ 'E'

theorem ends_nil : Ends [] := nofun

theorem ends_cons {c : Char} (h : c = ',' ∨ c = ']' ∨ c = '}') (cs : List Char) :
    Ends (c :: cs) := by
  rintro _ ⟨⟩
  rcases h with rfl | rfl | rfl <;> decide

namespace Ends

variable {rest : List Char} (h : Ends rest)

include h

theorem readFraction_eq : readFraction rest = some rest := by
  rw [readFraction]
  rintro cs rfl
  exact absurd rfl (h '.' rfl).2.1

theorem readExponent_eq : readExponent rest = some rest := by
  cases rest with
  | nil => rfl
  | cons c cs =>
    obtain ⟨-, -, hsmall, hlarge⟩ := h c rfl
    simp [readExponent, hsmall, hlarge]

theorem takeWhile_append {digits : List Char} (hdigits : ∀ c ∈ digits, c.isDigit) :
    (digits ++ rest).takeWhile Char.isDigit = digits := by
  rw [List.takeWhile_append_of_pos hdigits]
  cases rest with
  | nil => exact List.append_nil digits
  | cons c cs =>
    rw [List.takeWhile_cons, (h c rfl).1]
    exact List.append_nil digits

theorem dropWhile_append {digits : List Char} (hdigits : ∀ c ∈ digits, c.isDigit) :
    (digits ++ rest).dropWhile Char.isDigit = rest := by
  rw [List.dropWhile_append_of_pos hdigits]
  cases rest with
  | nil => rfl
  | cons c cs =>
    rw [List.dropWhile_cons, (h c rfl).1]
    rfl

/-- The digits of a number are read back, with the sign that was read before them. -/
theorem readUnsigned_decimal (negative : Bool) (n : Nat) (hn : negative = true → n ≠ 0) :
    readUnsigned negative (Text.decimal n ++ rest) =
      some (int (if negative then -(n : Int) else n), rest) := by
  have hdigits : ∀ c ∈ Text.decimal n, c.isDigit := fun _ => Text.isDigit_of_mem_decimal
  have hvalue : Text.value? 10 (Text.decimal n) = some n :=
    Text.value?_toDigits (by decide) (by decide) n
  rw [readUnsigned, h.takeWhile_append hdigits, h.dropWhile_append hdigits, isWhole_decimal,
    h.readFraction_eq, hvalue]
  cases negative with
  | false => simp [h.readExponent_eq]
  | true => simp [h.readExponent_eq, hn rfl]

theorem readNumber_decimalInt (i : Int) :
    readNumber (Text.decimalInt i ++ rest) = some (int i, rest) := by
  cases i with
  | negSucc n => exact h.readUnsigned_decimal true (n + 1) fun _ => Nat.succ_ne_zero n
  | ofNat n =>
    obtain ⟨c, cs, hdecimal, hdigit⟩ := Text.exists_digit_decimal n
    have hread := h.readUnsigned_decimal false n nofun
    rw [hdecimal] at hread
    rw [Text.decimalInt.eq_1, hdecimal, List.cons_append, readNumber]
    · exact hread
    · rintro _ ⟨⟩
      exact absurd hdigit (by decide)

end Ends

/-! ## Strings -/

theorem readPieces_escape {e c : Char} (h : escape? e = some c) (cs : List Char) :
    readPieces ('\\' :: e :: cs) = (readPieces cs).map fun r => (.char c :: r.1, r.2) := by
  have hu : e ≠ 'u' := by
    rintro rfl
    cases h
  rw [readPieces, h]
  · rfl
  · rintro a b c d cs rfl
    exact absurd rfl hu

theorem readPieces_unit {digits : List Char} {unit : Nat} (hlength : digits.length = 4)
    (hvalue : Text.value? 16 digits = some unit) (cs : List Char) :
    readPieces ('\\' :: 'u' :: (digits ++ cs)) =
      (readPieces cs).map fun r => (unitPiece unit :: r.1, r.2) := by
  match digits, hlength with
  | [a, b, c, d], _ =>
    change readPieces ('\\' :: 'u' :: a :: b :: c :: d :: cs) = _
    rw [readPieces, hvalue]
    rfl

theorem readPieces_plain {c : Char} (hquote : c ≠ '"') (hslash : c ≠ '\\')
    (hplain : ¬c.toNat < 0x20) (cs : List Char) :
    readPieces (c :: cs) = (readPieces cs).map fun r => (.char c :: r.1, r.2) := by
  rw [readPieces]
  · simp [hplain, hslash]
  all_goals grind

theorem hexPadded_control : ∀ n < 0x20, (Text.hexPadded 4 n).length = 4 ∧
    Text.value? 16 (Text.hexPadded 4 n) = some n := by
  decide

/-- A character is read back, however it had to be written: behind a backslash as a letter, as a code unit if
it is any other control character, or as it is. -/
theorem readPieces_writeChar (c : Char) (cs : List Char) :
    readPieces (writeChar c ++ cs) = (readPieces cs).map fun r => (.char c :: r.1, r.2) := by
  unfold writeChar
  split_ifs with hquote hslash hline hreturn htab hback hfeed hcontrol
  · subst hquote
    exact readPieces_escape rfl cs
  · subst hslash
    exact readPieces_escape rfl cs
  · subst hline
    exact readPieces_escape rfl cs
  · subst hreturn
    exact readPieces_escape rfl cs
  · subst htab
    exact readPieces_escape rfl cs
  · subst hback
    exact readPieces_escape rfl cs
  · subst hfeed
    exact readPieces_escape rfl cs
  · obtain ⟨hlength, hvalue⟩ := hexPadded_control c.toNat hcontrol
    have hpiece : unitPiece c.toNat = .char c := by
      have hwhole : isHalf c.toNat = false := by
        rw [isHalf, decide_eq_false (by omega)]
        rfl
      rw [unitPiece, hwhole, Char.ofNat_toNat]
      rfl
    rw [List.cons_append, List.cons_append, readPieces_unit hlength hvalue, hpiece]
  · exact readPieces_plain hquote hslash hcontrol cs

theorem readPieces_text (s rest : List Char) :
    readPieces ((s.map Piece.char).flatMap writePiece ++ '"' :: rest) =
      some (s.map .char, rest) := by
  induction s with
  | nil => rfl
  | cons c s ih =>
    rw [List.map_cons, List.flatMap_cons, writePiece, List.append_assoc, readPieces_writeChar, ih]
    rfl

/-- There are no halves to join in a proper text. -/
theorem joinHalves_text (s : List Char) : joinHalves (s.map .char) = s.map .char := by
  induction s with
  | nil => rfl
  | cons c s ih =>
    rw [List.map_cons, joinHalves, ih]
    nofun

theorem readString_text (s : String) (rest : List Char) :
    readString ((pieces s).flatMap writePiece ++ '"' :: rest) = some (pieces s, rest) := by
  rw [readString, pieces, readPieces_text, Option.map_some, joinHalves_text]

/-! ## Single values -/

theorem skip_cons {c : Char} (h : isSpace c = false) (cs : List Char) : skip (c :: cs) = c :: cs := by
  rw [skip, List.dropWhile_cons, h]
  rfl

theorem isSpace_of_number {c : Char} (h : c.isDigit ∨ c = '-') : isSpace c = false := by
  rw [isSpace, Bool.or_eq_false_iff, Bool.or_eq_false_iff, Bool.or_eq_false_iff]
  simp only [beq_eq_false_iff_ne]
  refine ⟨⟨⟨?_, ?_⟩, ?_⟩, ?_⟩ <;> rintro rfl <;> exact absurd h (by decide)

theorem readValue_number {c : Char} (h : c.isDigit ∨ c = '-') (n : Nat) (cs : List Char) :
    readValue (n + 1) (c :: cs) = readNumber (c :: cs) := by
  rw [readValue, skip_cons (isSpace_of_number h)]
  split
  case h_7 => rfl
  all_goals
    rename_i heq
    cases heq
    exact absurd h (by decide)

/-- What is read back from the text of a value, whatever follows it. The length of the text is budget enough:
a nested call has at least the bracket in front of it less to read. -/
def ReadsBack (j : Json) : Prop :=
  ∀ n rest, (write j).length ≤ n → Ends rest → readValue n (write j ++ rest) = some (j, rest)

theorem readsBack_int (i : Int) : ReadsBack (int i) := by
  intro n rest hroom hends
  obtain ⟨c, cs, hstart, hc⟩ := Text.exists_start_decimalInt i
  have hread := hends.readNumber_decimalInt i
  rw [write, hstart, List.length_cons] at hroom
  obtain ⟨n, rfl⟩ := Nat.exists_eq_add_of_le' hroom
  rw [hstart, List.cons_append] at hread
  rw [write, hstart, List.cons_append, ← Nat.add_assoc, readValue_number hc, hread]

theorem readsBack_text (s : String) : ReadsBack (text s) := by
  intro n rest hroom _
  have hread := readString_text s rest
  rw [text, write, writeString, List.length_cons] at hroom
  obtain ⟨n, rfl⟩ := Nat.exists_eq_add_of_le' hroom
  rw [text, write, writeString, List.cons_append, List.append_assoc, List.singleton_append,
    ← Nat.add_assoc, readValue, skip_cons rfl]
  simp only [hread]
  rfl

/-! ## Lists and records -/

theorem readItems_last {n : Nat} {cs rest : List Char} {item : Json}
    (h : readValue n cs = some (item, ']' :: rest)) :
    readItems (n + 1) cs = some ([item], rest) := by
  rw [readItems, h]
  rfl

theorem readItems_more {n : Nat} {cs rest : List Char} {item : Json}
    (h : readValue n cs = some (item, ',' :: rest)) :
    readItems (n + 1) cs = (readItems n rest).map fun r => (item :: r.1, r.2) := by
  rw [readItems, h]
  rfl

theorem writeItems_more (item next : Json) (items : List Json) :
    writeItems (item :: next :: items) = write item ++ ',' :: writeItems (next :: items) := by
  rw [writeItems]
  nofun

/-- The items of a list are read back if each of them is. -/
theorem readItems_write {item : Json} {items : List Json}
    (h : ∀ i ∈ item :: items, ReadsBack i) {n : Nat}
    (hroom : (writeItems (item :: items)).length ≤ n) (rest : List Char) :
    readItems n (writeItems (item :: items) ++ rest) = some (item :: items, rest) := by
  have hitem := h item List.mem_cons_self
  induction items generalizing item n with
  | nil =>
    rw [writeItems, List.length_append, List.length_singleton] at hroom
    obtain ⟨n, rfl⟩ := Nat.exists_eq_add_of_le' hroom
    rw [writeItems, List.append_assoc, ← Nat.add_assoc]
    exact readItems_last (hitem _ _ (Nat.le_add_left _ _) (ends_cons (.inr (.inl rfl)) rest))
  | cons next items ih =>
    -- the others are read with one call less, which is still more than they are long
    have hlater : ∀ m, (writeItems (next :: items)).length ≤ m →
        readItems m (writeItems (next :: items) ++ rest) = some (next :: items, rest) :=
      fun m hm => ih (fun i hi => h i (List.mem_cons_of_mem _ hi)) hm
        (h next (List.mem_cons_of_mem _ List.mem_cons_self))
    rw [writeItems_more, List.length_append, List.length_cons, ← Nat.add_assoc] at hroom
    obtain ⟨n, rfl⟩ := Nat.exists_eq_add_of_le' hroom
    rw [writeItems_more, List.append_assoc, List.cons_append, ← Nat.add_assoc,
      readItems_more (hitem _ _ (by omega) (ends_cons (.inl rfl) _)), hlater _ (by omega)]
    rfl

/-- The members of a record. -/
def members (fields : List (String × Json)) : List (List Piece × Json) :=
  fields.map fun f => (pieces f.1, f.2)

theorem record_eq (fields : List (String × Json)) : record fields = object (members fields) := rfl

theorem readMembers_last {n : Nat} {cs rest : List Char} {value : Json}
    (h : readValue n cs = some (value, '}' :: rest)) (name : String) :
    readMembers (n + 1) (writeString (pieces name) ++ ':' :: cs) =
      some ([(pieces name, value)], rest) := by
  rw [writeString, List.cons_append, List.append_assoc, List.singleton_append, readMembers,
    skip_cons rfl]
  simp only [readString_text name (':' :: cs)]
  rw [skip_cons rfl]
  simp only [h]
  rfl

theorem readMembers_more {n : Nat} {cs rest : List Char} {value : Json}
    (h : readValue n cs = some (value, ',' :: rest)) (name : String) :
    readMembers (n + 1) (writeString (pieces name) ++ ':' :: cs) =
      (readMembers n rest).map fun r => ((pieces name, value) :: r.1, r.2) := by
  rw [writeString, List.cons_append, List.append_assoc, List.singleton_append, readMembers,
    skip_cons rfl]
  simp only [readString_text name (':' :: cs)]
  rw [skip_cons rfl]
  simp only [h]
  rfl

theorem writeMembers_last (field : String × Json) :
    writeMembers (members [field]) =
      writeString (pieces field.1) ++ ':' :: (write field.2 ++ ['}']) := by
  rw [members, List.map_singleton, writeMembers]

theorem writeMembers_more (field next : String × Json) (fields : List (String × Json)) :
    writeMembers (members (field :: next :: fields)) =
      writeString (pieces field.1) ++
        ':' :: (write field.2 ++ ',' :: writeMembers (members (next :: fields))) := by
  rw [members, List.map_cons, writeMembers]
  · rfl
  · nofun

/-- The members of a record are read back if the value of each of them is. -/
theorem readMembers_write {field : String × Json} {fields : List (String × Json)}
    (h : ∀ f ∈ field :: fields, ReadsBack f.2) {n : Nat}
    (hroom : (writeMembers (members (field :: fields))).length ≤ n) (rest : List Char) :
    readMembers n (writeMembers (members (field :: fields)) ++ rest) =
      some (members (field :: fields), rest) := by
  have hfield := h field List.mem_cons_self
  induction fields generalizing field n with
  | nil =>
    rw [writeMembers_last, List.length_append, List.length_cons, List.length_append,
      List.length_singleton, ← Nat.add_assoc] at hroom
    obtain ⟨n, rfl⟩ := Nat.exists_eq_add_of_le' hroom
    rw [writeMembers_last, List.append_assoc, List.cons_append, List.append_assoc, ← Nat.add_assoc]
    exact readMembers_last (hfield _ _ (by omega) (ends_cons (.inr (.inr rfl)) rest)) field.1
  | cons next fields ih =>
    have hlater : ∀ m, (writeMembers (members (next :: fields))).length ≤ m →
        readMembers m (writeMembers (members (next :: fields)) ++ rest) =
          some (members (next :: fields), rest) :=
      fun m hm => ih (fun f hf => h f (List.mem_cons_of_mem _ hf)) hm
        (h next (List.mem_cons_of_mem _ List.mem_cons_self))
    rw [writeMembers_more, List.length_append, List.length_cons, List.length_append,
      List.length_cons, ← Nat.add_assoc] at hroom
    obtain ⟨n, rfl⟩ := Nat.exists_eq_add_of_le' hroom
    rw [writeMembers_more, List.append_assoc, List.cons_append, List.append_assoc,
      List.cons_append, ← Nat.add_assoc,
      readMembers_more (hfield _ _ (by omega) (ends_cons (.inl rfl) _)), hlater _ (by omega)]
    rfl

/-! ## Plain values -/

/-- A value of nothings, truth values, whole numbers, proper texts, lists and records. -/
inductive Plain : Json → Prop where
  /-- nothing -/
  | null : Plain null
  /-- a truth value -/
  | bool (b : Bool) : Plain (bool b)
  /-- a whole number -/
  | int (i : Int) : Plain (int i)
  /-- a proper text -/
  | text (s : String) : Plain (text s)
  /-- a list of plain values -/
  | array (items : List Json) (h : ∀ item ∈ items, Plain item) : Plain (array items)
  /-- a record of plain values -/
  | record (fields : List (String × Json)) (h : ∀ field ∈ fields, Plain field.2) :
    Plain (record fields)

/-- The text of a value begins with a mark of its own. -/
theorem Plain.exists_start {j : Json} (h : Plain j) :
    ∃ c cs, write j = c :: cs ∧ isSpace c = false ∧ c ≠ ']' := by
  cases h with
  | null => exact ⟨'n', _, rfl, by decide⟩
  | bool b =>
    cases b with
    | true => exact ⟨'t', _, rfl, by decide⟩
    | false => exact ⟨'f', _, rfl, by decide⟩
  | int i =>
    obtain ⟨c, cs, hstart, hc⟩ := Text.exists_start_decimalInt i
    refine ⟨c, cs, hstart, isSpace_of_number hc, ?_⟩
    rintro rfl
    exact absurd hc (by decide)
  | text s => exact ⟨'"', _, rfl, by decide⟩
  | array items => exact ⟨'[', _, rfl, by decide⟩
  | record fields => exact ⟨'{', _, rfl, by decide⟩

theorem exists_writeItems_eq (item : Json) (items : List Json) :
    ∃ more, writeItems (item :: items) = write item ++ more := by
  cases items with
  | nil => exact ⟨[']'], rfl⟩
  | cons next items => exact ⟨_, writeItems_more item next items⟩

theorem readValue_items {c : Char} (hspace : isSpace c = false) (hbracket : c ≠ ']') (n : Nat)
    (cs : List Char) : readValue (n + 1) ('[' :: c :: cs) =
      (readItems n (c :: cs)).map fun r => (array r.1, r.2) := by
  rw [readValue, skip_cons rfl]
  simp only [skip_cons hspace]
  split
  · next heq => exact absurd (List.cons.inj heq).1 hbracket
  · rfl

theorem readsBack_array {items : List Json} (hplain : ∀ item ∈ items, Plain item)
    (h : ∀ item ∈ items, ReadsBack item) : ReadsBack (array items) := by
  intro n rest hroom _
  rw [write, List.length_cons] at hroom
  obtain ⟨n, rfl⟩ := Nat.exists_eq_add_of_le' hroom
  rw [write, List.cons_append, ← Nat.add_assoc]
  cases items with
  | nil => rfl
  | cons item items =>
    obtain ⟨c, cs, hstart, hspace, hbracket⟩ := (hplain item List.mem_cons_self).exists_start
    obtain ⟨more, hmore⟩ := exists_writeItems_eq item items
    have hread := readItems_write h (Nat.le_add_left _ n) rest
    rw [hmore, hstart, List.cons_append, List.cons_append] at hread ⊢
    rw [readValue_items hspace hbracket, hread]
    rfl

theorem readValue_members (n : Nat) (cs : List Char) : readValue (n + 1) ('{' :: '"' :: cs) =
    (readMembers n ('"' :: cs)).map fun r => (object r.1, r.2) := by
  rw [readValue, skip_cons rfl]
  simp only [skip_cons (show isSpace '"' = false from rfl)]
  rfl

theorem exists_writeMembers_eq (field : String × Json) (fields : List (String × Json)) :
    ∃ more, writeMembers (members (field :: fields)) = '"' :: more := by
  cases fields with
  | nil => exact ⟨_, writeMembers_last field⟩
  | cons next fields => exact ⟨_, writeMembers_more field next fields⟩

theorem readsBack_record {fields : List (String × Json)} (h : ∀ f ∈ fields, ReadsBack f.2) :
    ReadsBack (record fields) := by
  intro n rest hroom _
  rw [record_eq, write, List.length_cons] at hroom
  obtain ⟨n, rfl⟩ := Nat.exists_eq_add_of_le' hroom
  rw [record_eq, write, List.cons_append, ← Nat.add_assoc]
  cases fields with
  | nil => rfl
  | cons field fields =>
    obtain ⟨more, hmore⟩ := exists_writeMembers_eq field fields
    have hread := readMembers_write h (Nat.le_add_left _ n) rest
    rw [hmore, List.cons_append] at hread ⊢
    rw [readValue_members, hread]
    rfl

/-- A value is read back from its text, whatever follows it. -/
theorem Plain.readsBack {j : Json} (h : Plain j) : ReadsBack j := by
  induction h with
  | null =>
    intro n rest hroom _
    obtain ⟨n, rfl⟩ := Nat.exists_eq_add_of_le' (Nat.le_of_add_right_le hroom)
    rfl
  | bool b =>
    intro n rest hroom _
    cases b with
    | true =>
      obtain ⟨n, rfl⟩ := Nat.exists_eq_add_of_le' hroom
      rfl
    | false =>
      obtain ⟨n, rfl⟩ := Nat.exists_eq_add_of_le' hroom
      rfl
  | int i => exact readsBack_int i
  | text s => exact readsBack_text s
  | array items hplain ih => exact readsBack_array hplain ih
  | record fields _ ih => exact readsBack_record ih

/-- **The text of a plain value is read as that value.** -/
theorem Plain.ofText?_render {j : Json} (h : Plain j) : ofText? (render j) = some j := by
  have hread : readValue (budget (write j)) (write j ++ []) = some (j, []) :=
    h.readsBack _ [] (by rw [budget]; omega) ends_nil
  rw [List.append_nil] at hread
  rw [ofText?, render, String.toList_ofList, ofChars?, hread]
  rfl

end Json

end KernelWait
