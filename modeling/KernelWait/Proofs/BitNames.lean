import KernelWait.Events
import KernelWait.Flags
import Mathlib.Data.List.Basic
import Mathlib.Data.List.TakeWhile
import Mathlib.Data.Nat.Bitwise

/-!
# Reading sets of named bits back

A set of bits is written as parts between bars, and each part is read by itself: a name as its bit, and the
number at the end as all bits that have no name. What the parts stand for makes up the set again, since a
name stands for one bit of it (`Legend.Proper`).

**A set of bits is read back from its text**, bits without a name included (`Text.readBits?_writeBits`).
-/

namespace KernelWait

namespace Text

/-! ## Trimming -/

theorem trimFront_append {front : List Char} (hfront : ∀ c ∈ front, isBlank c) (cs : List Char) :
    trimFront (front ++ cs) = trimFront cs :=
  List.dropWhile_append_of_pos hfront

theorem trimFront_of_not_blank {cs : List Char} (h : ∀ c ∈ cs.head?, isBlank c = false) :
    trimFront cs = cs := by
  cases cs with
  | nil => rfl
  | cons c cs =>
    rw [trimFront, List.dropWhile_cons, h c rfl]
    rfl

/-- Blanks around a text are trimmed. -/
theorem trim_padded {front part back : List Char} (hfront : ∀ c ∈ front, isBlank c)
    (hback : ∀ c ∈ back, isBlank c) (hne : part ≠ []) (hpart : ∀ c ∈ part, isBlank c = false) :
    trim (front ++ part ++ back) = part := by
  have hbegin : ∀ c ∈ (part ++ back).head?, isBlank c = false := by
    rw [List.head?_append_of_ne_nil _ hne]
    exact fun c hc => hpart c (List.mem_of_mem_head? hc)
  have hend : ∀ c ∈ part.reverse.head?, isBlank c = false :=
    fun c hc => hpart c (List.mem_reverse.1 (List.mem_of_mem_head? hc))
  rw [trim, List.append_assoc, trimFront_append hfront, trimFront_of_not_blank hbegin,
    List.reverse_append, trimFront_append (fun c hc => hback c (List.mem_reverse.1 hc)),
    trimFront_of_not_blank hend, List.reverse_reverse]

/-- A text that does not begin with a blank is not blank. -/
theorem trim_ne_nil {c : Char} (h : isBlank c = false) (cs : List Char) : trim (c :: cs) ≠ [] := by
  have hfront : trimFront (c :: cs) = c :: cs := trimFront_of_not_blank (by rintro _ ⟨⟩; exact h)
  rw [trim, hfront, ne_eq, List.reverse_eq_nil_iff, trimFront, List.dropWhile_eq_nil_iff]
  intro hall
  have hc := hall c (List.mem_reverse.2 List.mem_cons_self)
  rw [h] at hc
  cases hc

/-! ## Parts and bars -/

/-- Whether a part can be told from the bars and blanks around it. -/
structure IsWord (part : List Char) : Prop where
  /-- there is something of it -/
  nonempty : part ≠ []
  /-- it has no blanks inside -/
  solid : ∀ c ∈ part, isBlank c = false
  /-- and no bars -/
  unbarred : ∀ c ∈ part, c ≠ '|'

theorem isWord_iff (part : List Char) :
    IsWord part ↔ part ≠ [] ∧ part.all fun c => !isBlank c && c != '|' := by
  rw [List.all_eq_true]
  constructor
  · intro h
    refine ⟨h.nonempty, fun c hc => ?_⟩
    rw [h.solid c hc, bne_iff_ne.2 (h.unbarred c hc)]
    rfl
  · rintro ⟨hne, hall⟩
    have hboth : ∀ c ∈ part, isBlank c = false ∧ c ≠ '|' := by
      intro c hc
      have hc := hall c hc
      rw [Bool.and_eq_true, Bool.not_eq_true', bne_iff_ne] at hc
      exact hc
    exact ⟨hne, fun c hc => (hboth c hc).1, fun c hc => (hboth c hc).2⟩

instance (part : List Char) : Decidable (IsWord part) := decidable_of_iff' _ (isWord_iff part)

/-- A word has no bars either with blanks in front of it. -/
theorem IsWord.unbarred_append {part front : List Char} (h : IsWord part)
    (hfront : ∀ c ∈ front, c = ' ') : ∀ c ∈ front ++ part, c ≠ '|' := by
  intro c hc
  rcases List.mem_append.1 hc with hc | hc
  · rw [hfront c hc]
    decide
  · exact h.unbarred c hc

theorem splitBars_ne_nil (cs : List Char) : splitBars cs ≠ [] := by
  unfold splitBars
  split
  · exact List.cons_ne_nil _ _
  · exact List.cons_ne_nil _ _
  · split <;> exact List.cons_ne_nil _ _

theorem splitBars_cons {c : Char} (h : c ≠ '|') (cs : List Char) :
    splitBars (c :: cs) = (splitBars cs).modifyHead (c :: ·) := by
  rw [splitBars]
  · cases hsplit : splitBars cs with
    | nil => exact absurd hsplit (splitBars_ne_nil cs)
    | cons part parts => rfl
  · exact h

theorem splitBars_of_no_bar {cs : List Char} (h : ∀ c ∈ cs, c ≠ '|') : splitBars cs = [cs] := by
  induction cs with
  | nil => rfl
  | cons c cs ih =>
    rw [splitBars_cons (h c List.mem_cons_self), ih fun d hd => h d (List.mem_cons_of_mem c hd)]
    rfl

theorem splitBars_append_bar {cs : List Char} (h : ∀ c ∈ cs, c ≠ '|') (rest : List Char) :
    splitBars (cs ++ '|' :: rest) = cs :: splitBars rest := by
  induction cs with
  | nil => rfl
  | cons c cs ih =>
    rw [List.cons_append, splitBars_cons (h c List.mem_cons_self),
      ih fun d hd => h d (List.mem_cons_of_mem c hd)]
    rfl

variable {legend : Legend} {width : Nat}

/-- Blanks around a word make no difference. -/
theorem readPart?_padded {part front back : List Char} (hpart : IsWord part)
    (hfront : ∀ c ∈ front, c = ' ') (hback : ∀ c ∈ back, c = ' ') :
    readPart? legend width (front ++ part ++ back) = readPart? legend width part := by
  have hblank : ∀ cs : List Char, (∀ c ∈ cs, c = ' ') → ∀ c ∈ cs, isBlank c := by
    intro cs hcs c hc
    rw [hcs c hc]
    rfl
  rw [readPart?, readPart?, trim_eq_self hpart.solid, trim_padded (hblank front hfront)
    (hblank back hback) hpart.nonempty hpart.solid]

theorem readParts?_congr {part other : List Char} {parts others : List (List Char)}
    (hpart : readPart? legend width part = readPart? legend width other)
    (hparts : readParts? legend width parts = readParts? legend width others) :
    readParts? legend width (part :: parts) = readParts? legend width (other :: others) := by
  rw [readParts?, readParts?, hpart, hparts]

/-- Words joined by bars are read one by one, with blanks in front or without. -/
theorem readParts?_joinBars {part front : List Char} {parts : List (List Char)}
    (h : ∀ p ∈ part :: parts, IsWord p) (hfront : ∀ c ∈ front, c = ' ') :
    readParts? legend width (splitBars (front ++ joinBars (part :: parts))) =
      readParts? legend width (part :: parts) := by
  induction parts generalizing part front with
  | nil =>
    have hpart := h part List.mem_cons_self
    have hread : readPart? legend width (front ++ part ++ []) = readPart? legend width part :=
      readPart?_padded hpart hfront nofun
    rw [List.append_nil] at hread
    rw [joinBars, splitBars_of_no_bar (hpart.unbarred_append hfront)]
    exact readParts?_congr hread rfl
  | cons next parts ih =>
    have hpart := h part List.mem_cons_self
    have hblank : ∀ c ∈ [' '], c = ' ' := fun c => List.mem_singleton.1
    -- the blank behind the bar goes to the next part
    have hsplit : splitBars (front ++ joinBars (part :: next :: parts)) =
        (front ++ part ++ [' ']) :: splitBars ([' '] ++ joinBars (next :: parts)) := by
      rw [joinBars]
      · have hbar : ∀ c ∈ front ++ part ++ [' '], c ≠ '|' := by
          intro c hc
          rcases List.mem_append.1 hc with hc | hc
          · exact hpart.unbarred_append hfront c hc
          · rw [hblank c hc]
            decide
        rw [← splitBars_append_bar hbar]
        simp
      · nofun
    rw [hsplit]
    exact readParts?_congr (readPart?_padded hpart hfront hblank)
      (ih (fun p hp => h p (List.mem_cons_of_mem part hp)) hblank)

theorem readParts?_append {parts others : List (List Char)} {bits more : Nat}
    (hparts : readParts? legend width parts = some bits)
    (hothers : readParts? legend width others = some more) :
    readParts? legend width (parts ++ others) = some (bits ||| more) := by
  induction parts generalizing bits with
  | nil =>
    cases hparts
    rw [Nat.zero_or]
    exact hothers
  | cons part parts ih =>
    rw [readParts?, Option.bind_eq_some_iff] at hparts
    obtain ⟨first, hfirst, hmap⟩ := hparts
    obtain ⟨rest, hrest, rfl⟩ := Option.map_eq_some_iff.1 hmap
    rw [List.cons_append, readParts?, hfirst, ih hrest, Nat.or_assoc]
    rfl

/-! ## Names and numbers -/

theorem exists_digit_of_mem_hex {n : Nat} {c : Char} (h : c ∈ hex n) : ∃ d < 16, c = d.digitChar := by
  induction n using Nat.strongRecOn with
  | _ n ih =>
    rw [hex, Nat.toDigits_eq_if (by decide)] at h
    split at h
    · next hlt => exact ⟨n, hlt, List.mem_singleton.1 h⟩
    · next hge =>
      rcases List.mem_append.1 h with h | h
      · exact ih _ (Nat.div_lt_self (by omega) (by decide)) h
      · exact ⟨n % 16, Nat.mod_lt _ (by decide), List.mem_singleton.1 h⟩

/-- A hexadecimal digit is no blank, no bar and no plus sign. -/
theorem solid_of_mem_hex {n : Nat} {c : Char} (h : c ∈ hex n) :
    isBlank c = false ∧ c ≠ '|' ∧ c ≠ '+' := by
  have hall : ∀ d < 16, isBlank d.digitChar = false ∧ d.digitChar ≠ '|' ∧ d.digitChar ≠ '+' := by
    decide
  obtain ⟨d, hd, rfl⟩ := exists_digit_of_mem_hex h
  exact hall d hd

theorem isWord_hexMarked (n : Nat) : IsWord (hexMarked n) where
  nonempty := List.cons_ne_nil _ _
  solid c hc := by
    rcases List.mem_cons.1 hc with rfl | hc
    · rfl
    · rcases List.mem_cons.1 hc with rfl | hc
      · rfl
      · exact (solid_of_mem_hex hc).1
  unbarred c hc := by
    rcases List.mem_cons.1 hc with rfl | hc
    · decide
    · rcases List.mem_cons.1 hc with rfl | hc
      · decide
      · exact (solid_of_mem_hex hc).2.1

theorem dropPlus_hex (n : Nat) : dropPlus (hex n) = hex n := by
  rw [dropPlus]
  intro cs h
  exact absurd rfl (solid_of_mem_hex (n := n) (c := '+') (h ▸ List.mem_cons_self)).2.2

theorem readPart?_hexMarked {n : Nat} (hn : n < Nat.pow 2 width) :
    readPart? legend width (hexMarked n) = some n := by
  have hvalue : value? 16 (hex n) = some n := value?_toDigits (by decide) (by decide) n
  rw [readPart?, trim_eq_self (isWord_hexMarked n).solid, hexMarked]
  change unsigned? 16 (Nat.pow 2 width) (hex n) = some n
  rw [unsigned?, dropPlus_hex, hvalue, Option.filter_some, if_pos (decide_eq_true hn)]

namespace Legend

/-- Names that can be told apart, from each other and from numbers, each of a single bit. -/
structure Proper (legend : Legend) (width : Nat) : Prop where
  /-- no two bits have the same name -/
  distinct : (legend.map Prod.fst).Nodup
  /-- the names are words -/
  words : ∀ entry ∈ legend, IsWord entry.1.toList
  /-- that do not begin like numbers -/
  lettered : ∀ entry ∈ legend, entry.1.toList.head? ≠ some '0'
  /-- a name has one bit of the word -/
  single : ∀ entry ∈ legend, ∃ i < width, entry.2 = Nat.pow 2 i

instance (legend : Legend) (width : Nat) : Decidable (legend.Proper width) :=
  decidable_of_iff
    ((legend.map Prod.fst).Nodup ∧ (∀ entry ∈ legend, IsWord entry.1.toList) ∧
      (∀ entry ∈ legend, entry.1.toList.head? ≠ some '0') ∧
      ∀ entry ∈ legend, ∃ i < width, entry.2 = Nat.pow 2 i)
    ⟨fun h => ⟨h.1, h.2.1, h.2.2.1, h.2.2.2⟩, fun h => ⟨h.1, h.2, h.3, h.4⟩⟩

/-- A name leads to its own bit. -/
theorem Proper.bitOf?_name (h : legend.Proper width) {entry : String × Nat} (hentry : entry ∈ legend) :
    legend.bitOf? entry.1.toList = some entry.2 := by
  obtain ⟨before, after, hsplit⟩ := List.append_of_mem hentry
  have hfind : List.find? (fun e => e.1.toList == entry.1.toList) legend = some entry := by
    rw [List.find?_eq_some_iff_append]
    refine ⟨beq_self_eq_true _, before, after, hsplit, fun e he => ?_⟩
    have hdistinct := h.distinct
    rw [hsplit, List.map_append, List.map_cons, List.nodup_append] at hdistinct
    have hne : e.1 ≠ entry.1 :=
      hdistinct.2.2 e.1 (List.mem_map_of_mem he) entry.1 List.mem_cons_self
    exact bne_iff_ne.2 fun hsame => hne (String.toList_injective hsame)
  rw [bitOf?, hfind]
  rfl

theorem Proper.readPart?_name (h : legend.Proper width) {entry : String × Nat} (hentry : entry ∈ legend) :
    readPart? legend width entry.1.toList = some entry.2 := by
  rw [readPart?, trim_eq_self (h.words entry hentry).solid]
  split
  · next hnil => exact absurd hnil (h.words entry hentry).nonempty
  · next hnumber => exact absurd (congrArg List.head? hnumber) (h.lettered entry hentry)
  · exact h.bitOf?_name hentry

/-- The names of some bits are read as those bits. -/
theorem Proper.readParts?_names (h : legend.Proper width) {entries : Legend}
    (hsub : ∀ e ∈ entries, e ∈ legend) :
    readParts? legend width (entries.map (·.1.toList)) = some entries.known := by
  induction entries with
  | nil => rfl
  | cons entry entries ih =>
    rw [List.map_cons, readParts?, h.readPart?_name (hsub entry List.mem_cons_self),
      ih fun e he => hsub e (List.mem_cons_of_mem entry he)]
    rfl

/-- The named bits of a set are its bits that have a name. -/
theorem known_named (h : ∀ entry ∈ legend, ∃ i < width, entry.2 = Nat.pow 2 i) (bits : Nat) :
    (legend.named bits).known = bits &&& legend.known := by
  induction legend with
  | nil => exact (Nat.and_zero bits).symm
  | cons entry legend ih =>
    have hrest := ih fun e he => h e (List.mem_cons_of_mem entry he)
    obtain ⟨i, -, hi⟩ := h entry List.mem_cons_self
    have hknown : known (entry :: legend) = entry.2 ||| known legend := rfl
    -- a single bit is in the set or outside it, but never in part
    have hbit : bits &&& entry.2 = 0 ∨ bits &&& entry.2 = entry.2 := by
      have hand : bits &&& Nat.pow 2 i = (bits.testBit i).toNat * Nat.pow 2 i :=
        Nat.and_two_pow bits i
      rw [hi, hand]
      cases bits.testBit i with
      | false => exact .inl (Nat.zero_mul _)
      | true => exact .inr (Nat.one_mul _)
    rw [hknown, Nat.and_or_distrib_left, ← hrest, named, List.filter_cons]
    by_cases hset : bits &&& entry.2 = 0
    · rw [hset, Nat.zero_or]
      rfl
    · rw [if_pos (bne_iff_ne.2 hset), hbit.resolve_left hset]
      rfl

theorem known_or_unnamed (bits : Nat) :
    (bits &&& legend.known) ||| legend.unnamed bits = bits := by
  apply Nat.eq_of_testBit_eq
  intro i
  rw [unnamed, Nat.testBit_or, Nat.testBit_xor, Nat.testBit_and]
  cases bits.testBit i <;> cases legend.known.testBit i <;> rfl

theorem unnamed_lt {bits : Nat} (h : bits < Nat.pow 2 width) :
    legend.unnamed bits < Nat.pow 2 width :=
  Nat.xor_lt_two_pow h (Nat.lt_of_le_of_lt Nat.and_le_left h)

end Legend

variable (h : legend.Proper width)

include h

theorem isWord_of_mem_bitParts (bits : Nat) : ∀ part ∈ bitParts legend bits, IsWord part := by
  intro part hpart
  rcases List.mem_append.1 hpart with hpart | hpart
  · obtain ⟨entry, hentry, rfl⟩ := List.mem_map.1 hpart
    exact h.words entry (List.mem_filter.1 hentry).1
  · split at hpart
    · cases hpart
    · rw [List.mem_singleton.1 hpart]
      exact isWord_hexMarked _

/-- The parts of a set stand for the set. -/
theorem readParts?_bitParts {bits : Nat} (hbits : bits < Nat.pow 2 width) :
    readParts? legend width (bitParts legend bits) = some bits := by
  have hnames : readParts? legend width ((legend.named bits).map (·.1.toList)) =
      some (bits &&& legend.known) := by
    have hsub : ∀ e ∈ legend.named bits, e ∈ legend := fun e he => (List.mem_filter.1 he).1
    rw [h.readParts?_names hsub, Legend.known_named h.single]
  have hnumber : readParts? legend width
      (if legend.unnamed bits == 0 then [] else [hexMarked (legend.unnamed bits)]) =
        some (legend.unnamed bits) := by
    split
    · next hzero => rw [beq_iff_eq.1 hzero, readParts?]
    · rw [readParts?, readPart?_hexMarked (Legend.unnamed_lt hbits), Option.bind_some, readParts?,
        Option.map_some, Nat.or_zero]
  rw [bitParts, readParts?_append hnames hnumber, Legend.known_or_unnamed]

/-- **A set of bits is read back from its text**, bits without a name included. -/
theorem readBits?_writeBits {bits : Nat} (hbits : bits < Nat.pow 2 width) :
    readBits? legend width (writeBits legend bits) = some bits := by
  have hread := readParts?_bitParts h hbits
  have hwords := isWord_of_mem_bitParts h bits
  rw [readBits?, writeBits]
  cases hparts : bitParts legend bits with
  | nil =>
    rw [hparts] at hread
    exact hread
  | cons part parts =>
    rw [hparts] at hread hwords
    have hpart := hwords part List.mem_cons_self
    obtain ⟨c, cs, hc⟩ := List.exists_cons_of_ne_nil hpart.nonempty
    obtain ⟨more, hmore⟩ : ∃ more, joinBars (part :: parts) = part ++ more := by
      cases parts with
      | nil => exact ⟨[], (List.append_nil part).symm⟩
      | cons next parts => exact ⟨_, rfl⟩
    have hsolid : trim (joinBars (part :: parts)) ≠ [] := by
      rw [hmore, hc]
      exact trim_ne_nil (hpart.solid c (hc ▸ List.mem_cons_self)) _
    rw [if_neg (by rwa [List.isEmpty_iff])]
    have hjoined : readParts? legend width (splitBars ([] ++ joinBars (part :: parts))) =
        readParts? legend width (part :: parts) := readParts?_joinBars hwords nofun
    exact hjoined.trans hread

end Text

/-! ## Events and flags -/

theorem Events.legend_proper : Events.legend.Proper 16 := by decide

/-- A set of events is read back from its text, whatever its bits are. -/
theorem Events.ofText?_text (e : Events) : ofText? e.text = some e := by
  rw [ofText?, text, Text.readBits?_writeBits legend_proper e.bits.toNat_lt, Option.map_some,
    UInt16.ofNat_toNat]

theorem Flags.legend_proper : Flags.legend.Proper 32 := by decide

/-- A set of flags is read back from its text, whatever its bits are. -/
theorem Flags.ofText?_text (f : Flags) : ofText? f.text = some f := by
  rw [ofText?, text, Text.readBits?_writeBits legend_proper f.bits.toNat_lt, Option.map_some,
    UInt32.ofNat_toNat]

end KernelWait
