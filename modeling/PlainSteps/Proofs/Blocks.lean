import PlainSteps.Proofs.Parity

/-!
# Blocks of terms

A term outside quotes that opens a connector segment begins a block, which lasts until the next
such term. A reading never looks past the beginning of a block, and what it has read before goes
into no segment of the block. So a list of terms that is cut before blocks has the segments of its
parts in order, and a negation exactly if one of its parts has one (`read_parts`); and a block is
read into one connector segment (`exists_segment`).
-/

namespace PlainSteps.Sentence

/-! ## Where blocks begin -/

/-- Outside quotes the term opens a connector segment; `next` is the term behind it. -/
def Term.opens (t : Term) (next : Option Term) : Bool := !t.hasQuote && beginsConnected t next

/-- No term outside quotes opens a connector segment; `inQuote` says that a quoted span is open
before the terms. -/
def isUnopened (inQuote : Bool) : List Term → Bool
  | [] => true
  | t :: r => (inQuote || !t.opens r.head?) && isUnopened (inQuote != t.togglesQuote) r

/-- The first term opens a segment of the connector, and no later term outside quotes opens one. -/
def isBlock (k : Connector) : List Term → Bool
  | [] => false
  | t :: r => t.opens r.head? && Connector.ofWord? t.lower == some k && isUnopened false r

/-- The terms begin with a block, if there are any. -/
def isCut : List Term → Bool
  | [] => true
  | t :: r => t.opens r.head?

theorem Term.connector_of_opens {t : Term} {next : Option Term} (h : t.opens next) :
    ∃ k, Connector.ofWord? t.lower = some k := by
  rw [opens, beginsConnected, Bool.and_eq_true, Bool.and_eq_true] at h
  exact Option.isSome_iff_exists.mp h.2.1

theorem exists_of_isBlock {k : Connector} {ts : List Term} (h : isBlock k ts) :
    ∃ t r, ts = t :: r ∧ t.opens r.head? ∧ Connector.ofWord? t.lower = some k ∧
      isUnopened false r := by
  cases ts with
  | nil => cases h
  | cons t r =>
      rw [isBlock, Bool.and_eq_true, Bool.and_eq_true, beq_iff_eq] at h
      exact ⟨t, r, rfl, h.1.1, h.1.2, h.2⟩

/-! ## What a reading looks ahead for -/

/-- The term is read apart from the one before it, whatever that is. -/
structure Term.IsDetached (t : Term) : Prop where
  the : t.lower ≠ "the"
  unpaired : Unpaired t.text

theorem Term.isDetached_of_opens {t : Term} {next : Option Term} (h : t.opens next) :
    t.IsDetached := by
  obtain ⟨k, hk⟩ := connector_of_opens h
  constructor
  · intro heq
    have hnone : Connector.ofWord? "the" = none := by decide
    rw [heq, hnone] at hk
    cases hk
  · refine unpaired_of_forall fun e he heq => ?_
    have hall : ∀ e ∈ wordPairs, Connector.ofWord? e.2.1 = none := by decide
    rw [lower, ← heq, hall e he] at hk
    cases hk

theorem Reading.take_detached {u : Term} (h : u.IsDetached) (r : Reading) (t : Term) :
    r.take t (some u) = r.take t none := by
  have hbegins : beginsConnected t (some u) = beginsConnected t none := by
    simp only [beginsConnected, Option.any_some, Option.any_none, h.the, decide_false]
  have hjoined : joined? t u = none := by simp [joined?, h.unpaired t.text]
  simp only [Reading.take, hbegins, Option.bind_some, hjoined, Option.bind_none]

theorem Reading.take_none (r : Reading) (t : Term) : (r.take t none).2 = false := by
  unfold Reading.take
  repeat' split
  all_goals first | rfl | simp_all

/-- A reading looks no further than to the next term that is read apart. -/
theorem Reading.read_append_of_detached {us : List Term} (h : ∀ u ∈ us.head?, u.IsDetached)
    (r : Reading) (ts : List Term) : r.read (ts ++ us) = (r.read ts).read us := by
  cases us with
  | nil => rw [List.append_nil, Reading.read]
  | cons u us =>
      fun_induction r.read ts with
      | case1 r => rfl
      | case2 r t =>
          have htake : r.take t (some u) = ((r.take t none).1, false) := by
            rw [Reading.take_detached (h u rfl), ← Reading.take_none r t]
          exact Reading.read_cons htake
      | case3 r t v rest r' h ih =>
          rw [List.cons_append, List.cons_append, Reading.read, h]
          exact ih
      | case4 r t v rest r' h ih =>
          rw [List.cons_append, List.cons_append, Reading.read, h]
          exact ih

/-! ## What was read before -/

@[simp] theorem Segment.kind_push (s : Segment) (word : Text) (hyphenated : Bool) :
    (s.push word hyphenated).kind = s.kind := by
  rw [push]
  split
  · split <;> rfl
  · rfl

namespace Reading

/-- The reading with further segments before its own, and a further negation if `n`. -/
def after (r : Reading) (closed : List Segment) (n : Bool) : Reading :=
  ⟨r.place, closed ++ r.closed, n || r.negated⟩

section After

variable (r : Reading) (closed : List Segment) (n : Bool)

@[simp] theorem place_after : (r.after closed n).place = r.place := rfl

@[simp] theorem closed_after : (r.after closed n).closed = closed ++ r.closed := rfl

@[simp] theorem segments_after : (r.after closed n).segments = closed ++ r.segments :=
  List.append_assoc ..

@[simp] theorem start_after (s : Segment) :
    (r.after closed n).start s = (r.start s).after closed n := by
  simp [start, after, segments]

@[simp] theorem endQuote_after (s : Segment) :
    (r.after closed n).endQuote s = (r.endQuote s).after closed n := by
  rw [endQuote, endQuote]
  split <;> simp [after]

@[simp] theorem takeQuoted_after (t : Term) :
    (r.after closed n).takeQuoted t = (r.takeQuoted t).after closed n := by
  obtain ⟨place, before, negated⟩ := r
  cases place with
  | between | quoted s =>
      simp only [takeQuoted, after, segments, endQuote, Segment.kind_push]
      split_ifs <;> simp
  | inside s =>
      simp only [takeQuoted, after, segments, endQuote, Segment.kind_push]
      split_ifs <;> simp

@[simp] theorem takeWord_after (word : Text) (hyphenated : Bool) (role : Role) :
    (r.after closed n).takeWord word hyphenated role =
      (r.takeWord word hyphenated role).after closed n := by
  obtain ⟨place, before, negated⟩ := r
  cases place with
  | between | quoted s => cases role <;> simp [takeWord, after, start, segments]
  | inside s =>
      obtain ⟨kind, words⟩ := s
      cases kind <;> cases role <;> simp [takeWord, after, start, segments]

theorem take_after (t : Term) (next : Option Term) :
    (r.after closed n).take t next =
      ((r.take t next).1.after closed n, (r.take t next).2) := by
  cases hquoted : r.isQuoted with
  | true =>
      obtain ⟨place, before, negated⟩ := r
      cases place with
      | between | inside => cases hquoted
      | quoted s =>
          cases htoggles : t.togglesQuote with
          | true => simp only [take, place_after, htoggles, if_true, endQuote_after]
          | false => simp [take, after, htoggles]
  | false =>
      rw [take_outside hquoted, take_outside (r := r.after closed n) hquoted]
      split
      · simp
      · split
        · split
          · simp
          · simp [after, segments]
        · split
          · simp [after]
          · split <;> simp

end After

/-- What was read before changes nothing in what the terms are read into. -/
theorem read_after (r : Reading) (closed : List Segment) (n : Bool) (ts : List Term) :
    (r.after closed n).read ts = (r.read ts).after closed n := by
  fun_induction r.read ts with
  | case1 r => rfl
  | case2 r t => rw [read, take_after]
  | case3 r t u rest r' h ih => simp only [read, take_after, h, ih]
  | case4 r t u rest r' h ih => simp only [read, take_after, h, ih]

end Reading

/-! ## Parts -/

/-- The segments that the terms are read into. -/
def segmentsOf (ts : List Term) : List Segment := (({} : Reading).read ts).segments

/-- Some term negates. -/
def isNegated (ts : List Term) : Bool := (({} : Reading).read ts).negated

theorem isCut_of_isBlock {k : Connector} {ts : List Term} (h : isBlock k ts) : isCut ts := by
  obtain ⟨t, r, rfl, hopens, -⟩ := exists_of_isBlock h
  exact hopens

theorem isQuoted_of_even {ts : List Term} (h : Even (quotesOf ts)) :
    (({} : Reading).read ts).isQuoted = false := by
  rw [Reading.isQuoted_read, isOdd_eq_false.mpr h]
  rfl

theorem isIdle_of_even {ts : List Term} (h : Even (quotesOf ts)) :
    (({} : Reading).read ts).IsIdle := by
  intro s hs
  have hquoted := isQuoted_of_even h
  rw [Reading.isQuoted, hs] at hquoted
  cases hquoted

theorem Reading.take_of_opens {r : Reading} (hr : r.isQuoted = false) {t : Term}
    {next : Option Term} {k : Connector} (ht : t.opens next)
    (hk : Connector.ofWord? t.lower = some k) :
    r.take t next = (r.start ⟨.connector k, [t.lower]⟩, false) := by
  rw [Term.opens, Bool.and_eq_true, Bool.not_eq_true'] at ht
  rw [Reading.take_outside hr, ht.1, ht.2, hk]
  rfl

/-- Outside quotes a block is read as if nothing stood before it. -/
theorem Reading.read_of_opens {r : Reading} (hr : r.isQuoted = false) {t : Term} {ts : List Term}
    (ht : t.opens ts.head?) :
    r.read (t :: ts) = (({} : Reading).read (t :: ts)).after r.segments r.negated := by
  obtain ⟨k, hk⟩ := Term.connector_of_opens ht
  rw [read_cons (take_of_opens hr ht hk), read_cons (take_of_opens rfl ht hk), ← read_after]
  simp [Reading.start, Reading.after, Reading.segments, Place.segments]

/-- Cut outside quotes before a block, terms have the segments of the two parts and negate if one
of them does. -/
theorem read_parts {ts us : List Term} (hts : Even (quotesOf ts)) (hus : isCut us) :
    segmentsOf (ts ++ us) = segmentsOf ts ++ segmentsOf us ∧
      isNegated (ts ++ us) = (isNegated ts || isNegated us) := by
  cases us with
  | nil =>
      rw [List.append_nil]
      exact ⟨(List.append_nil _).symm, (Bool.or_false _).symm⟩
  | cons u us =>
      have hdetached : ∀ v ∈ (u :: us).head?, v.IsDetached := by
        rintro v hv
        obtain rfl := Option.some.inj hv
        exact Term.isDetached_of_opens hus
      rw [segmentsOf, isNegated, Reading.read_append_of_detached hdetached,
        Reading.read_of_opens (isQuoted_of_even hts) hus]
      exact ⟨Reading.segments_after .., rfl⟩

/-! ## One block -/

/-- The reading is inside a segment of the connector, and has finished none before. -/
def Reading.Within (k : Connector) (r : Reading) : Prop :=
  ∃ ws, r.place.segments = [⟨.connector k, ws⟩] ∧ r.closed = []

theorem Reading.Within.take {k : Connector} {r : Reading} (hr : r.Within k) {t : Term}
    {next : Option Term} (ht : r.isQuoted = false → t.opens next = false) :
    (r.take t next).1.Within k := by
  obtain ⟨place, closed, negated⟩ := r
  obtain ⟨ws, hplace, hclosed⟩ := hr
  obtain rfl : closed = [] := hclosed
  -- Whatever the segment takes, it stays open: quotes do not end it, and verbs and nouns join it.
  have hpush (word : Text) (hyphenated : Bool) :
      ∃ vs, Segment.push ⟨.connector k, ws⟩ word hyphenated = ⟨.connector k, vs⟩ :=
    ⟨_, congrArg (Segment.mk · _) (Segment.kind_push ⟨.connector k, ws⟩ word hyphenated)⟩
  cases place with
  | between => cases hplace
  | quoted s =>
      obtain rfl : s = ⟨.connector k, ws⟩ := List.singleton_inj.mp hplace
      obtain ⟨vs, hvs⟩ := hpush t.raw t.hyphenated
      simp only [Reading.take, hvs]
      split <;> exact ⟨vs, rfl, rfl⟩
  | inside s =>
      obtain rfl : s = ⟨.connector k, ws⟩ := List.singleton_inj.mp hplace
      have hopens : t.opens next = false := ht rfl
      rw [take_outside rfl]
      split
      next hquote =>
        obtain ⟨vs, hvs⟩ := hpush t.raw t.hyphenated
        simp only [takeQuoted, hvs, reduceCtorEq, if_false]
        split <;> exact ⟨vs, rfl, rfl⟩
      next hquote =>
        have hbegins : beginsConnected t next = false := by simpa [Term.opens, hquote] using hopens
        rw [hbegins, if_neg Bool.false_ne_true]
        split
        · exact ⟨ws, rfl, rfl⟩
        · split
          next word _ =>
            obtain ⟨vs, hvs⟩ := hpush word false
            simp only [takeWord, hvs]
            exact ⟨vs, rfl, rfl⟩
          next =>
            obtain ⟨vs, hvs⟩ := hpush t.raw t.hyphenated
            simp only [takeWord, hvs]
            exact ⟨vs, rfl, rfl⟩

theorem Reading.Within.read {k : Connector} {r : Reading} (hr : r.Within k) {ts : List Term}
    (hts : isUnopened r.isQuoted ts) : (r.read ts).Within k := by
  have htake {r : Reading} (hr : r.Within k) {t : Term} {ts : List Term}
      (hts : isUnopened r.isQuoted (t :: ts)) : (r.take t ts.head?).1.Within k := by
    rw [isUnopened, Bool.and_eq_true] at hts
    refine hr.take fun hquoted => ?_
    simpa [hquoted] using hts.1
  fun_induction r.read ts with
  | case1 r => exact hr
  | case2 r t => exact htake hr hts
  | case3 r t u rest r' h ih =>
      have hr' := htake hr hts
      obtain ⟨hopen, hnext⟩ := isQuoted_take r t (some u)
      rw [List.head?_cons, h] at hr'
      rw [h] at hopen hnext
      -- The second of two joined terms has no quotes.
      rw [isUnopened, isUnopened, togglesQuote_eq u, hnext rfl u rfl, togglesQuote_eq, ← hopen,
        Bool.and_eq_true, Bool.and_eq_true] at hts
      refine ih hr' ?_
      rw [← Bool.bne_false r'.isQuoted]
      exact hts.2.2
  | case4 r t u rest r' h ih =>
      have hr' := htake hr hts
      obtain ⟨hopen, -⟩ := isQuoted_take r t (some u)
      rw [List.head?_cons, h] at hr'
      rw [h] at hopen
      rw [isUnopened, togglesQuote_eq, ← hopen, Bool.and_eq_true] at hts
      exact ih hr' hts.2

/-- A block is read into one segment of its connector. -/
theorem exists_segment {k : Connector} {ts : List Term} (h : isBlock k ts) :
    ∃ ws, segmentsOf ts = [⟨.connector k, ws⟩] := by
  obtain ⟨t, r, rfl, hopens, hk, hr⟩ := exists_of_isBlock h
  have hstart : (({} : Reading).start ⟨.connector k, [t.lower]⟩).Within k := ⟨_, rfl, rfl⟩
  obtain ⟨ws, hplace, hclosed⟩ := hstart.read hr
  refine ⟨ws, ?_⟩
  rw [segmentsOf, Reading.read_cons (Reading.take_of_opens rfl hopens hk), Reading.segments, hplace,
    hclosed]
  rfl

end PlainSteps.Sentence
