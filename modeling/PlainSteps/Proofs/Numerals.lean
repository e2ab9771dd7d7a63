import Mathlib.Data.List.TakeWhile
import PlainSteps.Numeral.Decimal

/-!
# The grammar of numerals

What a whole number, a decimal and a number may be written as, apart from how they are read. Each
reader takes just the texts of its grammar, and the value that belongs to them:
`readInt?_eq_some_iff`, `Decimal.read?_eq_some_iff` and `Double.read?_eq_some_iff`.
-/

namespace PlainSteps.Numeral

/-! ## The grammar -/

/-- A sign or none, and whether it is a minus sign. -/
inductive IsSign : Bool → Text → Prop
  | none : IsSign false []
  | plus : IsSign false ['+']
  | minus : IsSign true ['-']

/-- Digits, of which there may be none. -/
def IsDigits (t : Text) : Prop := ∀ c ∈ t, c.isDigit

/-- A whole number: one digit at least, with a sign or none. -/
inductive IsWhole : Int → Text → Prop
  | mk {negative : Bool} {s t : Text} : IsSign negative s → IsDigits t → t ≠ [] →
      IsWhole (Double.signed negative (digitsValue t)) (s ++ t)

/-- Digits before a point and digits behind it; without a point there are none behind. -/
inductive IsMantissa : Text → Text → Text → Prop
  | whole {a : Text} : IsDigits a → IsMantissa a [] a
  | point {a b : Text} : IsDigits a → IsDigits b → IsMantissa a b (a ++ '.' :: b)

/-- A power of ten, or none. -/
inductive IsExponent : Int → Text → Prop
  | absent : IsExponent 0 []
  | present {c : Char} {x : Int} {t : Text} : c = 'e' ∨ c = 'E' → IsWhole x t →
      IsExponent x (c :: t)

/-- A decimal without a sign: one digit at least before the point or behind it. -/
inductive Decimal.Spells : Decimal → Text → Prop
  | mk {a b m e : Text} {x : Int} : IsMantissa a b m → a ++ b ≠ [] → IsExponent x e →
      Spells ⟨digitsValue (a ++ b), x - b.length⟩ (m ++ e)

/-- A decimal with a sign or none. -/
inductive IsNumeral : Bool → Decimal → Text → Prop
  | mk {negative : Bool} {s t : Text} {d : Decimal} : IsSign negative s → d.Spells t →
      IsNumeral negative d (s ++ t)

/-- The text is the word in any case. -/
def IsSpelling (word t : Text) : Prop := t.map Char.toLower = word

instance (word t : Text) : Decidable (IsSpelling word t) := inferInstanceAs (Decidable (_ = _))

/-- A number: infinity, no number, or a decimal, each with a sign or none. -/
inductive Double.Spells : Double → Text → Prop
  | infinity {negative : Bool} {s t : Text} : IsSign negative s →
      IsSpelling "inf" t ∨ IsSpelling "infinity" t → Spells (.infinity negative) (s ++ t)
  | nan {negative : Bool} {s t : Text} : IsSign negative s → IsSpelling "nan" t →
      Spells .nan (s ++ t)
  | numeral {negative : Bool} {d : Decimal} {t : Text} : IsNumeral negative d t →
      Spells (d.toDouble negative) t

/-! ## Signs and digits -/

/-- A sign at the head of a text taken off. -/
def splitSign (t : Text) : Bool × Text :=
  match t with
  | '-' :: r => (true, r)
  | '+' :: r => (false, r)
  | _ => (false, t)

theorem exists_splitSign (t : Text) :
    ∃ negative s r, splitSign t = (negative, r) ∧ IsSign negative s ∧ t = s ++ r := by
  unfold splitSign
  split
  · exact ⟨_, _, _, rfl, .minus, rfl⟩
  · exact ⟨_, _, _, rfl, .plus, rfl⟩
  · exact ⟨_, _, _, rfl, .none, rfl⟩

/-- The text begins, and not with a sign. -/
def Unsigned (t : Text) : Prop := ∃ c r, t = c :: r ∧ c ≠ '-' ∧ c ≠ '+'

theorem splitSign_append {s t : Text} {negative : Bool} (hs : IsSign negative s)
    (ht : Unsigned t) : splitSign (s ++ t) = (negative, t) := by
  cases hs with
  | plus => rfl
  | minus => rfl
  | none =>
      obtain ⟨c, r, rfl, hminus, hplus⟩ := ht
      show splitSign (c :: r) = _
      unfold splitSign
      split
      · next h => exact absurd (List.cons.inj h).1 hminus
      · next h => exact absurd (List.cons.inj h).1 hplus
      · rfl

theorem isDigits_takeWhile (t : Text) : IsDigits (t.takeWhile Char.isDigit) :=
  fun _ => List.mem_takeWhile_imp

/-- No digit stands at the head. -/
def Undigited (t : Text) : Prop := ∀ c, t.head? = some c → c.isDigit = false

theorem takeWhile_digits {a t : Text} (ha : IsDigits a) (ht : Undigited t) :
    (a ++ t).takeWhile Char.isDigit = a := by
  rw [List.takeWhile_append_of_pos ha]
  cases t with
  | nil => exact List.append_nil a
  | cons c r => rw [List.takeWhile_cons, ht c rfl, if_neg Bool.false_ne_true, List.append_nil]

theorem dropWhile_digits {a t : Text} (ha : IsDigits a) (ht : Undigited t) :
    (a ++ t).dropWhile Char.isDigit = t := by
  rw [List.dropWhile_append_of_pos ha]
  cases t with
  | nil => rfl
  | cons c r => rw [List.dropWhile_cons, ht c rfl, if_neg Bool.false_ne_true]

theorem unsigned_of_isDigit {c : Char} (h : c.isDigit ∨ c = '.') (r : Text) :
    Unsigned (c :: r) := by
  refine ⟨c, r, rfl, ?_, ?_⟩
  · rintro rfl
    exact absurd h (by decide)
  · rintro rfl
    exact absurd h (by decide)

/-! ## Whole numbers -/

theorem readInt?_of_splitSign {t r : Text} {negative : Bool} (h : splitSign t = (negative, r)) :
    readInt? t =
      if r.isEmpty || !r.all Char.isDigit then none
      else some (Double.signed negative (digitsValue r)) := by
  have hunfold : readInt? t =
      match splitSign t with
      | (negative, digits) =>
        if digits.isEmpty || !digits.all Char.isDigit then none
        else some (Double.signed negative (digitsValue digits)) := rfl
  rw [hunfold, h]

theorem not_digitless_iff {t : Text} :
    ¬ (t.isEmpty || !t.all Char.isDigit) ↔ t ≠ [] ∧ IsDigits t := by
  rw [Bool.or_eq_true, List.isEmpty_iff, Bool.not_eq_true', not_or, Bool.not_eq_false,
    List.all_eq_true]
  rfl

theorem unsigned_of_isDigits {t : Text} (h : IsDigits t) (hne : t ≠ []) : Unsigned t := by
  cases t with
  | nil => exact absurd rfl hne
  | cons c r => exact unsigned_of_isDigit (.inl (h c List.mem_cons_self)) r

theorem readInt?_eq_some_iff {t : Text} {n : Int} : readInt? t = some n ↔ IsWhole n t := by
  constructor
  · intro h
    obtain ⟨negative, s, r, hsplit, hs, rfl⟩ := exists_splitSign t
    rw [readInt?_of_splitSign hsplit] at h
    by_cases hbad : r.isEmpty || !r.all Char.isDigit
    · rw [if_pos hbad] at h
      cases h
    · rw [if_neg hbad] at h
      obtain rfl := Option.some.inj h
      obtain ⟨hne, hdigits⟩ := not_digitless_iff.mp hbad
      exact .mk hs hdigits hne
  · rintro ⟨hs, hdigits, hne⟩
    rw [readInt?_of_splitSign (splitSign_append hs (unsigned_of_isDigits hdigits hne)),
      if_neg (not_digitless_iff.mpr ⟨hne, hdigits⟩)]

/-! ## Decimals -/

/-- The digits behind a point at the head of a text, and what follows them. -/
def splitPoint (t : Text) : Text × Text :=
  match t with
  | '.' :: r => (r.takeWhile Char.isDigit, r.dropWhile Char.isDigit)
  | _ => ([], t)

/-- The digits at the head of a text, those behind a point after them, and what follows. -/
def splitMantissa (t : Text) : Text × Text × Text :=
  (t.takeWhile Char.isDigit, splitPoint (t.dropWhile Char.isDigit))

theorem exists_splitMantissa (t : Text) :
    ∃ a b m r, splitMantissa t = (a, b, r) ∧ IsMantissa a b m ∧ t = m ++ r := by
  have ht : t = t.takeWhile Char.isDigit ++ t.dropWhile Char.isDigit :=
    List.takeWhile_append_dropWhile.symm
  unfold splitMantissa splitPoint
  split
  · next u hu =>
      refine ⟨_, _, _, _, rfl, .point (isDigits_takeWhile t) (isDigits_takeWhile u), ?_⟩
      rw [List.append_assoc, List.cons_append, List.takeWhile_append_dropWhile, ← hu]
      exact ht
  · exact ⟨_, _, _, _, rfl, .whole (isDigits_takeWhile t), ht⟩

/-- What follows a mantissa goes on with neither a digit nor a point. -/
def Follows (t : Text) : Prop := ∀ c, t.head? = some c → c.isDigit = false ∧ c ≠ '.'

theorem splitMantissa_append {a b m r : Text} (hm : IsMantissa a b m) (hr : Follows r) :
    splitMantissa (m ++ r) = (a, b, r) := by
  have hundigited : Undigited r := fun c hc => (hr c hc).1
  unfold splitMantissa
  cases hm with
  | whole ha =>
      rw [dropWhile_digits ha hundigited, takeWhile_digits ha hundigited]
      unfold splitPoint
      split
      · exact absurd rfl (hr '.' rfl).2
      · rfl
  | point ha hb =>
      have hpoint : Undigited ('.' :: (b ++ r)) := by
        rintro c ⟨⟩
        rfl
      rw [List.append_assoc, List.cons_append, dropWhile_digits ha hpoint,
        takeWhile_digits ha hpoint]
      show (a, (b ++ r).takeWhile Char.isDigit, (b ++ r).dropWhile Char.isDigit) = (a, b, r)
      rw [takeWhile_digits hb hundigited, dropWhile_digits hb hundigited]

/-- Reads what follows a mantissa. -/
def readExponent? : Text → Option Int
  | [] => some 0
  | c :: r => if c == 'e' || c == 'E' then readInt? r else none

theorem readExponent?_eq_some_iff {t : Text} {x : Int} :
    readExponent? t = some x ↔ IsExponent x t := by
  constructor
  · intro h
    cases t with
    | nil =>
        obtain rfl := Option.some.inj h
        exact .absent
    | cons c r =>
        by_cases hc : c == 'e' || c == 'E'
        · rw [readExponent?, if_pos hc] at h
          rw [Bool.or_eq_true, beq_iff_eq, beq_iff_eq] at hc
          exact .present hc (readInt?_eq_some_iff.mp h)
        · rw [readExponent?, if_neg hc] at h
          cases h
  · intro h
    cases h with
    | absent => rfl
    | @present c _ r hc hr =>
        have hmark : c == 'e' || c == 'E' := by
          rw [Bool.or_eq_true, beq_iff_eq, beq_iff_eq]
          exact hc
        rw [readExponent?, if_pos hmark]
        exact readInt?_eq_some_iff.mpr hr

theorem IsExponent.follows {x : Int} {t : Text} (h : IsExponent x t) : Follows t := by
  rintro c hc
  cases h with
  | absent => cases hc
  | present hmark =>
      obtain rfl := Option.some.inj hc
      rcases hmark with rfl | rfl <;> decide

theorem Decimal.read?_of_splitMantissa {t a b r : Text} (h : splitMantissa t = (a, b, r)) :
    read? t =
      if a.isEmpty && b.isEmpty then none
      else (readExponent? r).map fun x => ⟨digitsValue (a ++ b), x - b.length⟩ := by
  have hunfold : read? t =
      match splitMantissa t with
      | (whole, fraction, rest) =>
        let decimal (x : Int) : Decimal := ⟨digitsValue (whole ++ fraction), x - fraction.length⟩
        if whole.isEmpty && fraction.isEmpty then none
        else match rest with
          | [] => some (decimal 0)
          | c :: r => if c == 'e' || c == 'E' then (readInt? r).map decimal else none := rfl
  rw [hunfold, h]
  cases r with
  | nil => rfl
  | cons c r =>
      dsimp only [readExponent?]
      rw [apply_ite (Option.map _), Option.map_none]

theorem digitless_iff {a b : Text} : a.isEmpty && b.isEmpty ↔ a ++ b = [] := by
  rw [Bool.and_eq_true, List.isEmpty_iff, List.isEmpty_iff, List.append_eq_nil_iff]

theorem Decimal.read?_eq_some_iff {t : Text} {d : Decimal} : read? t = some d ↔ d.Spells t := by
  constructor
  · intro h
    obtain ⟨a, b, m, r, hsplit, hm, rfl⟩ := exists_splitMantissa t
    rw [read?_of_splitMantissa hsplit] at h
    by_cases hnone : a.isEmpty && b.isEmpty
    · rw [if_pos hnone] at h
      cases h
    · rw [if_neg hnone] at h
      obtain ⟨x, hx, rfl⟩ := Option.map_eq_some_iff.mp h
      exact .mk hm (mt digitless_iff.mpr hnone) (readExponent?_eq_some_iff.mp hx)
  · rintro ⟨hm, hne, hx⟩
    rw [read?_of_splitMantissa (splitMantissa_append hm hx.follows),
      if_neg (mt digitless_iff.mp hne), readExponent?_eq_some_iff.mpr hx, Option.map_some]

theorem IsMantissa.exists_head {a b m : Text} (h : IsMantissa a b m) (hne : a ++ b ≠ []) :
    ∃ c r, m = c :: r ∧ (c.isDigit ∨ c = '.') := by
  cases a with
  | nil =>
      cases h with
      | whole => exact absurd rfl hne
      | point => exact ⟨'.', b, rfl, .inr rfl⟩
  | cons c r =>
      cases h with
      | whole ha => exact ⟨c, r, rfl, .inl (ha c List.mem_cons_self)⟩
      | point ha => exact ⟨c, r ++ '.' :: b, rfl, .inl (ha c List.mem_cons_self)⟩

/-- A decimal begins with a digit or with a point. -/
theorem Decimal.Spells.exists_head {d : Decimal} {t : Text} (h : d.Spells t) :
    ∃ c r, t = c :: r ∧ (c.isDigit ∨ c = '.') := by
  obtain ⟨hm, hne, hx⟩ := h
  obtain ⟨c, r, rfl, hc⟩ := hm.exists_head hne
  exact ⟨c, _, rfl, hc⟩

/-- A whole number is a numeral, too. -/
theorem IsWhole.isNumeral {n : Int} {t : Text} (h : IsWhole n t) :
    ∃ negative digits, n = Double.signed negative digits ∧ IsNumeral negative ⟨digits, 0⟩ t := by
  obtain ⟨hs, hdigits, hne⟩ := h
  have hspells := Decimal.Spells.mk (.whole hdigits) (by rwa [List.append_nil]) .absent
  simp only [List.append_nil] at hspells
  exact ⟨_, _, rfl, .mk hs hspells⟩

/-! ## Numbers -/

theorem toLower_of_isDigit {c : Char} (h : c.isDigit ∨ c = '.') : c.toLower = c := by
  have hsmall : c.val ≤ '9'.val := by
    rcases h with h | rfl
    · exact of_decide_eq_true ((Bool.and_eq_true _ _).mp h).2
    · decide
  refine dif_neg ?_
  rintro ⟨hbig, -⟩
  exact absurd (UInt32.le_trans hbig hsmall) (by decide)

/-- A word begins with a letter, so it is no decimal. -/
theorem Decimal.Spells.not_isSpelling {d : Decimal} {c : Char} {w t : Text} (h : d.Spells t)
    (hc : ¬ (c.isDigit ∨ c = '.')) : ¬ IsSpelling (c :: w) t := by
  intro hw
  obtain ⟨e, r, rfl, he⟩ := h.exists_head
  obtain ⟨hhead, -⟩ := List.cons.inj hw
  rw [toLower_of_isDigit he] at hhead
  exact hc (hhead ▸ he)

theorem IsSpelling.unsigned {c : Char} {w t : Text} (h : IsSpelling (c :: w) t)
    (hminus : c ≠ '-') (hplus : c ≠ '+') : Unsigned t := by
  cases t with
  | nil => cases h
  | cons e r =>
      obtain ⟨hhead, -⟩ := List.cons.inj h
      refine ⟨e, r, rfl, ?_, ?_⟩
      · rintro rfl
        exact hminus hhead.symm
      · rintro rfl
        exact hplus hhead.symm

theorem Decimal.Spells.unsigned {d : Decimal} {t : Text} (h : d.Spells t) : Unsigned t := by
  obtain ⟨c, r, rfl, hc⟩ := h.exists_head
  exact unsigned_of_isDigit hc r

namespace Double

theorem read?_of_splitSign {t r : Text} {negative : Bool} (h : splitSign t = (negative, r)) :
    read? t =
      if IsSpelling "inf" r || IsSpelling "infinity" r then some (infinity negative)
      else if IsSpelling "nan" r then some nan
      else (Decimal.read? r).map (·.toDouble negative) := by
  have hunfold : read? t =
      match splitSign t with
      | (negative, unsigned) =>
        if IsSpelling "inf" unsigned || IsSpelling "infinity" unsigned then
          some (infinity negative)
        else if IsSpelling "nan" unsigned then some nan
        else (Decimal.read? unsigned).map (·.toDouble negative) := rfl
  rw [hunfold, h]

theorem read?_eq_some_iff {t : Text} {x : Double} : read? t = some x ↔ x.Spells t := by
  constructor
  · intro h
    obtain ⟨negative, s, r, hsplit, hs, rfl⟩ := exists_splitSign t
    rw [read?_of_splitSign hsplit] at h
    by_cases hinf : IsSpelling "inf" r || IsSpelling "infinity" r
    · rw [if_pos hinf] at h
      obtain rfl := Option.some.inj h
      rw [Bool.or_eq_true, decide_eq_true_eq, decide_eq_true_eq] at hinf
      exact .infinity hs hinf
    · rw [if_neg hinf] at h
      by_cases hnan : IsSpelling "nan" r
      · rw [if_pos hnan] at h
        obtain rfl := Option.some.inj h
        exact .nan hs hnan
      · rw [if_neg hnan] at h
        obtain ⟨d, hd, rfl⟩ := Option.map_eq_some_iff.mp h
        exact .numeral (.mk hs (Decimal.read?_eq_some_iff.mp hd))
  · intro h
    cases h with
    | @infinity negative s r hs hr =>
        have hunsigned : Unsigned r :=
          hr.elim (·.unsigned (by decide) (by decide)) (·.unsigned (by decide) (by decide))
        rw [read?_of_splitSign (splitSign_append hs hunsigned), if_pos]
        rw [Bool.or_eq_true, decide_eq_true_eq, decide_eq_true_eq]
        exact hr
    | @nan negative s r hs hr =>
        rw [read?_of_splitSign (splitSign_append hs (hr.unsigned (by decide) (by decide))),
          if_neg, if_pos hr]
        rw [Bool.or_eq_true, decide_eq_true_eq, decide_eq_true_eq, not_or]
        exact ⟨fun h => absurd (h.symm.trans hr) (by decide),
          fun h => absurd (h.symm.trans hr) (by decide)⟩
    | numeral h =>
        obtain ⟨hs, hr⟩ := h
        rw [read?_of_splitSign (splitSign_append hs hr.unsigned), if_neg, if_neg,
          Decimal.read?_eq_some_iff.mpr hr, Option.map_some]
        · exact hr.not_isSpelling (by decide)
        · rw [Bool.or_eq_true, decide_eq_true_eq, decide_eq_true_eq, not_or]
          exact ⟨hr.not_isSpelling (by decide), hr.not_isSpelling (by decide)⟩

end Double

end PlainSteps.Numeral
