import PlainSteps.Proofs.Terms
import PlainSteps.Sentence

/-!
# Instructions lose conjunctions only

A list of terms is cut at the conjunctions that join two instructions, and the instructions put one
behind the other are the list without its dangling conjunctions (`Trimmed`): those of a run that a
verb follows directly, outside quotes, or that ends the list. No conjunction is left at the end of
an instruction, every instruction but the first begins with a verb, and cutting an instruction
again leaves it whole. The main statement is `instructions_lossless`.
-/

namespace PlainSteps.Sentence

/-! ## Where terms are cut -/

/-- Outside quotes the conjunction `t` stands directly before a verb. -/
def endsPart (inQuote : Bool) (t : Term) (rest : List Term) : Bool :=
  !inQuote && t.role == .conjunction && rest.head?.any (·.role == .verb)

theorem endsPart_iff {q : Bool} {t : Term} {r : List Term} :
    endsPart q t r ↔ q = false ∧ t.role = .conjunction ∧ ∃ v ∈ r.head?, v.role = .verb := by
  cases r <;> simp [endsPart, and_assoc]

theorem endsPart_eq_false {q : Bool} {t : Term} {r r' : List Term} (hr : r' <+: r)
    (h : endsPart q t r = false) : endsPart q t r' = false := by
  rw [← Bool.not_eq_true, endsPart_iff] at h ⊢
  rintro ⟨hq, ht, v, hv, hrole⟩
  obtain ⟨us, rfl⟩ := List.head?_eq_some_iff.mp hv
  obtain ⟨vs, rfl, -⟩ := List.cons_prefix_iff.mp hr
  exact h ⟨hq, ht, v, rfl, hrole⟩

theorem rawParts_ne_nil (q : Bool) (ts : List Term) : rawParts q ts ≠ [] := by
  cases ts with
  | nil => exact List.cons_ne_nil _ _
  | cons t r =>
      rw [rawParts]
      split
      · exact List.cons_ne_nil _ _
      · cases rawParts (q != t.togglesQuote) r <;> exact List.cons_ne_nil _ _

theorem rawParts_of_endsPart {q : Bool} {t : Term} {r : List Term} (h : endsPart q t r) :
    rawParts q (t :: r) = [] :: rawParts (q != t.togglesQuote) r :=
  if_pos h

theorem rawParts_cons {q : Bool} {t : Term} {r : List Term} (h : endsPart q t r = false)
    {p : List Term} {ps : List (List Term)} (hr : rawParts (q != t.togglesQuote) r = p :: ps) :
    rawParts q (t :: r) = (t :: p) :: ps := by
  have hcons : rawParts q (t :: r) = consPart t (rawParts (q != t.togglesQuote) r) :=
    if_neg (by rw [← endsPart, h]; exact Bool.false_ne_true)
  rw [hcons, hr]
  rfl

/-- Either the first term is cut off, or it goes in front of the first part of the others. -/
theorem rawParts_cases (q : Bool) (t : Term) (r : List Term) :
    ∃ p ps, rawParts (q != t.togglesQuote) r = p :: ps ∧
      (endsPart q t r ∧ rawParts q (t :: r) = [] :: p :: ps ∨
        endsPart q t r = false ∧ rawParts q (t :: r) = (t :: p) :: ps) := by
  obtain ⟨p, ps, hr⟩ := List.exists_cons_of_ne_nil (rawParts_ne_nil (q != t.togglesQuote) r)
  refine ⟨p, ps, hr, ?_⟩
  cases hends : endsPart q t r with
  | true => exact .inl ⟨rfl, by rw [rawParts_of_endsPart hends, hr]⟩
  | false => exact .inr ⟨rfl, rawParts_cons hends hr⟩

theorem mem_of_mem_rawParts {q : Bool} {ts : List Term} :
    ∀ p ∈ rawParts q ts, ∀ t ∈ p, t ∈ ts := by
  induction ts generalizing q with
  | nil => simp [rawParts]
  | cons t r ih =>
      obtain ⟨p, ps, hr, hcases⟩ := rawParts_cases q t r
      have hrest : ∀ p' ∈ p :: ps, ∀ u ∈ p', u ∈ t :: r := by
        rw [← hr]
        exact fun p' hp' u hu => List.mem_cons_of_mem t (ih p' hp' u hu)
      obtain ⟨-, hparts⟩ | ⟨-, hparts⟩ := hcases
      · rw [hparts]
        exact List.forall_mem_cons.mpr ⟨List.forall_mem_nil _, hrest⟩
      · obtain ⟨hp, hps⟩ := List.forall_mem_cons.mp hrest
        rw [hparts]
        refine List.forall_mem_cons.mpr ⟨?_, hps⟩
        exact List.forall_mem_cons.mpr ⟨List.mem_cons_self, hp⟩

theorem prefix_of_rawParts {q : Bool} {ts p : List Term} {ps : List (List Term)}
    (h : rawParts q ts = p :: ps) : p <+: ts := by
  induction ts generalizing q p ps with
  | nil =>
      obtain ⟨rfl, -⟩ := List.cons.inj h
      exact List.nil_prefix
  | cons t r ih =>
      obtain ⟨u, us, hr, ⟨-, hparts⟩ | ⟨-, hparts⟩⟩ := rawParts_cases q t r
      · obtain ⟨rfl, -⟩ := List.cons.inj (hparts.symm.trans h)
        exact List.nil_prefix
      · obtain ⟨rfl, -⟩ := List.cons.inj (hparts.symm.trans h)
        exact List.cons_prefix_cons.mpr ⟨rfl, ih hr⟩

/-- Only conjunctions are left out between the parts. -/
theorem mem_rawParts_of_mem {q : Bool} {ts : List Term} {t : Term} (ht : t ∈ ts)
    (hrole : t.role ≠ .conjunction) : ∃ p ∈ rawParts q ts, t ∈ p := by
  induction ts generalizing q with
  | nil => cases ht
  | cons u r ih =>
      obtain ⟨p, ps, hr, hcases⟩ := rawParts_cases q u r
      have hrest (h : t ∈ r) : ∃ p' ∈ p :: ps, t ∈ p' := by
        rw [← hr]
        exact ih h
      obtain ⟨hends, hparts⟩ | ⟨-, hparts⟩ := hcases
      · rw [hparts]
        rcases List.mem_cons.mp ht with rfl | ht
        · exact absurd (endsPart_iff.mp hends).2.1 hrole
        · obtain ⟨p', hp', hmem⟩ := hrest ht
          exact ⟨p', List.mem_cons_of_mem [] hp', hmem⟩
      · rw [hparts]
        rcases List.mem_cons.mp ht with rfl | ht
        · exact ⟨t :: p, List.mem_cons_self, List.mem_cons_self⟩
        · obtain ⟨p', hp', hmem⟩ := hrest ht
          rcases List.mem_cons.mp hp' with rfl | hp'
          · exact ⟨u :: p', List.mem_cons_self, List.mem_cons_of_mem u hmem⟩
          · exact ⟨p', List.mem_cons_of_mem _ hp', hmem⟩

theorem verb_of_mem_tail_rawParts {q : Bool} {ts : List Term} :
    ∀ p ∈ (rawParts q ts).tail, ∃ v ∈ p.head?, v.role = .verb := by
  induction ts generalizing q with
  | nil => exact nofun
  | cons t r ih =>
      obtain ⟨p, ps, hr, hcases⟩ := rawParts_cases q t r
      have hps : ∀ p' ∈ ps, ∃ v ∈ p'.head?, v.role = .verb := by
        have hall := ih (q := q != t.togglesQuote)
        rwa [hr] at hall
      obtain ⟨hends, hparts⟩ | ⟨-, hparts⟩ := hcases
      · -- The verb that the cut is made for begins the next part.
        obtain ⟨-, -, v, hv, hrole⟩ := endsPart_iff.mp hends
        obtain ⟨r, rfl⟩ := List.head?_eq_some_iff.mp hv
        obtain ⟨p', ps', -, ⟨hverb, -⟩ | ⟨-, hparts'⟩⟩ := rawParts_cases (q != t.togglesQuote) v r
        · rw [(endsPart_iff.mp hverb).2.1] at hrole
          cases hrole
        · obtain ⟨rfl, rfl⟩ := List.cons.inj (hr.symm.trans hparts')
          rw [hparts]
          exact List.forall_mem_cons.mpr ⟨⟨v, rfl, hrole⟩, hps⟩
      · rw [hparts]
        exact hps

/-! ## Conjunctions at the end -/

theorem dropTrailingConjunctions_eq_nil_iff {p : List Term} :
    dropTrailingConjunctions p = [] ↔ ∀ t ∈ p, t.role = .conjunction := by
  simp [dropTrailingConjunctions, List.dropWhile_eq_nil_iff]

theorem dropTrailingConjunctions_cons (t : Term) (p : List Term) :
    dropTrailingConjunctions (t :: p) =
      if (dropTrailingConjunctions p).isEmpty && t.role == .conjunction then []
      else t :: dropTrailingConjunctions p := by
  rw [dropTrailingConjunctions, dropTrailingConjunctions, List.reverse_cons, List.dropWhile_append,
    List.isEmpty_reverse]
  cases (p.reverse.dropWhile (·.role == .conjunction)) with
  | nil => cases h : t.role == .conjunction <;> simp [h]
  | cons u us => simp

theorem dropTrailingConjunctions_append (p : List Term) :
    dropTrailingConjunctions p ++ (p.reverse.takeWhile (·.role == .conjunction)).reverse = p := by
  rw [dropTrailingConjunctions, ← List.reverse_append, List.takeWhile_append_dropWhile,
    List.reverse_reverse]

theorem dropTrailingConjunctions_append_cons (ts : List Term) {u : Term}
    (hu : u.role ≠ .conjunction) (us : List Term) :
    dropTrailingConjunctions (ts ++ u :: us) = ts ++ u :: dropTrailingConjunctions us := by
  induction ts with
  | nil => simp [dropTrailingConjunctions_cons, hu]
  | cons t ts ih => simp [dropTrailingConjunctions_cons, ih]

theorem getLast?_dropTrailingConjunctions (p : List Term) :
    ∀ t ∈ (dropTrailingConjunctions p).getLast?, t.role ≠ .conjunction := by
  intro t ht
  rw [dropTrailingConjunctions, List.getLast?_reverse] at ht
  have hhead := List.head?_dropWhile_not (fun t : Term => t.role == .conjunction) p.reverse
  rw [ht] at hhead
  simpa using hhead

theorem dropTrailingConjunctions_eq_self {p : List Term}
    (h : ∀ t ∈ p.getLast?, t.role ≠ .conjunction) : dropTrailingConjunctions p = p := by
  rcases List.eq_nil_or_concat' p with rfl | ⟨us, t, rfl⟩
  · rfl
  · have ht : t.role ≠ .conjunction := h t (by simp)
    simp [dropTrailingConjunctions, ht]

/-! ## Dangling conjunctions -/

/-- The terms begin with a run of conjunctions that ends the list or that a verb follows directly,
outside quotes; `inQuote` says that a quoted span is open before the first. -/
inductive Dangling : (inQuote : Bool) → List Term → Prop
  | last {inQuote : Bool} {t : Term} (ht : t.role = .conjunction) : Dangling inQuote [t]
  | verb {t v : Term} {r : List Term} (ht : t.role = .conjunction) (hv : v.role = .verb) :
      Dangling false (t :: v :: r)
  | more {inQuote : Bool} {t u : Term} {r : List Term} (ht : t.role = .conjunction)
      (h : Dangling (inQuote != t.togglesQuote) (u :: r)) : Dangling inQuote (t :: u :: r)

/-- The second list is the first without the terms that begin dangling runs, and the other terms
are kept as they stand. -/
inductive Trimmed : (inQuote : Bool) → List Term → List Term → Prop
  | nil (inQuote : Bool) : Trimmed inQuote [] []
  | keep {inQuote : Bool} {t : Term} {r us : List Term} (ht : ¬ Dangling inQuote (t :: r))
      (h : Trimmed (inQuote != t.togglesQuote) r us) : Trimmed inQuote (t :: r) (t :: us)
  | drop {inQuote : Bool} {t : Term} {r us : List Term} (ht : Dangling inQuote (t :: r))
      (h : Trimmed (inQuote != t.togglesQuote) r us) : Trimmed inQuote (t :: r) us

/-- Terms that are cut off at once begin a dangling run. -/
theorem Dangling.of_endsPart {q : Bool} {t : Term} {r : List Term} (h : endsPart q t r) :
    Dangling q (t :: r) := by
  obtain ⟨rfl, ht, v, hv, hrole⟩ := endsPart_iff.mp h
  obtain ⟨r, rfl⟩ := List.head?_eq_some_iff.mp hv
  exact .verb ht hrole

/-- A run dangles exactly if it is all that is left of its part. -/
theorem dangling_iff {q : Bool} {t : Term} {r p : List Term} {ps : List (List Term)}
    (h : rawParts q (t :: r) = p :: ps) :
    Dangling q (t :: r) ↔ ∀ u ∈ p, u.role = .conjunction := by
  induction r generalizing q t p ps with
  | nil =>
      obtain ⟨rfl, -⟩ := List.cons.inj ((rawParts_cons (by simp [endsPart]) rfl).symm.trans h)
      rw [List.forall_mem_singleton]
      constructor
      · rintro ⟨⟩
        assumption
      · exact .last
  | cons u r ih =>
      obtain ⟨p', ps', hr, ⟨hends, hparts⟩ | ⟨hends, hparts⟩⟩ := rawParts_cases q t (u :: r)
      · obtain ⟨rfl, -⟩ := List.cons.inj (hparts.symm.trans h)
        exact iff_of_true (.of_endsPart hends) nofun
      · obtain ⟨rfl, -⟩ := List.cons.inj (hparts.symm.trans h)
        rw [List.forall_mem_cons, ← ih hr]
        constructor
        · intro hdangling
          cases hdangling with
          | verb ht hv => simp [endsPart, ht, hv] at hends
          | more ht hrest => exact ⟨ht, hrest⟩
        · rintro ⟨ht, hrest⟩
          exact .more ht hrest

theorem trimmed_rawParts (q : Bool) (ts : List Term) :
    Trimmed q ts ((rawParts q ts).map dropTrailingConjunctions).flatten := by
  induction ts generalizing q with
  | nil => exact .nil q
  | cons t r ih =>
      have hrest := ih (q != t.togglesQuote)
      obtain ⟨p, ps, hr, ⟨hends, hparts⟩ | ⟨hends, hparts⟩⟩ := rawParts_cases q t r
      · rw [hr] at hrest
        rw [hparts]
        exact .drop (.of_endsPart hends) hrest
      · have hdangling := dangling_iff hparts
        rw [← dropTrailingConjunctions_eq_nil_iff] at hdangling
        rw [hr, List.map_cons, List.flatten_cons] at hrest
        rw [hparts, List.map_cons, List.flatten_cons]
        rw [dropTrailingConjunctions_cons] at hdangling ⊢
        cases hdrop : (dropTrailingConjunctions p).isEmpty && t.role == .conjunction with
        | true =>
            rw [hdrop, if_pos rfl] at hdangling
            rw [if_pos rfl]
            rw [List.isEmpty_iff.mp (Bool.and_eq_true_iff.mp hdrop).1] at hrest
            exact .drop (hdangling.mpr rfl) hrest
        | false =>
            rw [hdrop, if_neg Bool.false_ne_true] at hdangling
            rw [if_neg Bool.false_ne_true]
            exact .keep (mt hdangling.mp (List.cons_ne_nil _ _)) hrest

/-! ## Cutting again -/

/-- What is not cut is not cut either where it ends earlier. -/
theorem rawParts_front {q : Bool} {p p' : List Term} (hp : rawParts q p = [p])
    (h : p' <+: p) : rawParts q p' = [p'] := by
  induction p' generalizing q p with
  | nil => rfl
  | cons t r' ih =>
      obtain ⟨r, rfl, hfront⟩ := List.cons_prefix_iff.mp h
      obtain ⟨u, us, hr, ⟨-, hparts⟩ | ⟨hends, hparts⟩⟩ := rawParts_cases q t r
      · cases hparts.symm.trans hp
      · obtain ⟨hcons, rfl⟩ := List.cons.inj (hparts.symm.trans hp)
        obtain ⟨-, rfl⟩ := List.cons.inj hcons
        exact rawParts_cons (endsPart_eq_false hfront hends) (ih hr hfront)

theorem rawParts_part {q : Bool} {ts : List Term}
    (h : ∀ t ∈ ts, t.role = .conjunction → t.quotes = 0) {p : List Term} {ps : List (List Term)}
    (hts : rawParts q ts = p :: ps) :
    p <+: ts ∧ rawParts q p = [p] ∧ ∀ p' ∈ ps, rawParts false p' = [p'] := by
  refine ⟨prefix_of_rawParts hts, ?_⟩
  induction ts generalizing q p ps with
  | nil =>
      obtain ⟨rfl, rfl⟩ := List.cons.inj hts
      exact ⟨rfl, nofun⟩
  | cons t r ih =>
      obtain ⟨ht, hquotes⟩ := List.forall_mem_cons.mp h
      obtain ⟨u, us, hr, ⟨hends, hparts⟩ | ⟨hends, hparts⟩⟩ := rawParts_cases q t r
      all_goals
        have hfront := prefix_of_rawParts hr
        obtain ⟨hfirst, hlater⟩ := ih hquotes hr
        obtain ⟨rfl, rfl⟩ := List.cons.inj (hparts.symm.trans hts)
      · obtain ⟨rfl, hrole, -⟩ := endsPart_iff.mp hends
        -- The next part begins outside quotes, since the conjunction has none.
        rw [Term.togglesQuote_of_quotes (ht hrole)] at hfirst
        exact ⟨rfl, List.forall_mem_cons.mpr ⟨hfirst, hlater⟩⟩
      · exact ⟨rawParts_cons (endsPart_eq_false hfront hends) hfirst, hlater⟩

/-! ## Instructions -/

theorem exists_of_mem_instructions {ts p : List Term} (h : p ∈ instructions ts) :
    p ≠ [] ∧ ∃ p' ∈ rawParts false ts, dropTrailingConjunctions p' = p := by
  obtain ⟨hmem, hne⟩ := List.mem_filter.mp h
  exact ⟨by simpa using hne, List.mem_map.mp hmem⟩

theorem verb_of_mem_tail_instructions {ts : List Term} :
    ∀ p ∈ (instructions ts).tail, ∃ v ∈ p.head?, v.role = .verb := by
  obtain ⟨q, qs, hparts⟩ := List.exists_cons_of_ne_nil (rawParts_ne_nil false ts)
  have hverb : ∀ p' ∈ qs, ∃ v ∈ p'.head?, v.role = .verb := by
    have hall := @verb_of_mem_tail_rawParts false ts
    rwa [hparts] at hall
  have hlater : ∀ p ∈ (qs.map dropTrailingConjunctions).filter (!·.isEmpty),
      ∃ v ∈ p.head?, v.role = .verb := by
    intro p hp
    obtain ⟨p', hp', rfl⟩ := List.mem_map.mp (List.mem_of_mem_filter hp)
    obtain ⟨v, hv, hrole⟩ := hverb p' hp'
    obtain ⟨r, rfl⟩ := List.head?_eq_some_iff.mp hv
    exact ⟨v, by simp [dropTrailingConjunctions_cons, hrole], hrole⟩
  intro p hp
  rw [instructions, hparts, List.map_cons, List.filter_cons] at hp
  split at hp
  · exact hlater p hp
  · exact hlater p (List.mem_of_mem_tail hp)

/-- The instructions of a list of terms lose nothing but its dangling conjunctions. None of them is
empty or ends with a conjunction, every one but the first begins with a verb, and if no conjunction
has quotes, each is the one instruction of its own terms. -/
theorem instructions_lossless (ts : List Term) :
    (∀ p ∈ instructions ts, p ≠ [] ∧ ∀ t ∈ p.getLast?, t.role ≠ .conjunction) ∧
      (∀ p ∈ (instructions ts).tail, ∃ v ∈ p.head?, v.role = .verb) ∧
      Trimmed false ts (instructions ts).flatten ∧
      ((∀ t ∈ ts, t.role = .conjunction → t.quotes = 0) →
        ∀ p ∈ instructions ts, instructions p = [p]) := by
  have hends : ∀ p ∈ instructions ts, p ≠ [] ∧ ∀ t ∈ p.getLast?, t.role ≠ .conjunction := by
    intro p hp
    obtain ⟨hne, p', -, rfl⟩ := exists_of_mem_instructions hp
    exact ⟨hne, getLast?_dropTrailingConjunctions p'⟩
  refine ⟨hends, verb_of_mem_tail_instructions, ?_, fun h p hp => ?_⟩
  · rw [instructions, List.flatten_filter_not_isEmpty]
    exact trimmed_rawParts false ts
  · obtain ⟨hne, hlast⟩ := hends p hp
    obtain ⟨-, p', hp', rfl⟩ := exists_of_mem_instructions hp
    obtain ⟨q, qs, hparts⟩ := List.exists_cons_of_ne_nil (rawParts_ne_nil false ts)
    obtain ⟨-, hfirst, hlater⟩ := rawParts_part h hparts
    have hwhole : rawParts false p' = [p'] := by
      rw [hparts] at hp'
      rcases List.mem_cons.mp hp' with rfl | hp'
      · exact hfirst
      · exact hlater p' hp'
    rw [instructions, rawParts_front hwhole ⟨_, dropTrailingConjunctions_append p'⟩,
      List.map_singleton, dropTrailingConjunctions_eq_self hlast]
    simpa using hne

-- Behind the quoted `then` stands a verb as well.
example : (instructions (lexicon "And click \"then be\" link and then hover \"B\" link, and")).map
    clauseOf = ["click \"then be\" link".toList, "hover \"B\" link,".toList] := by
  decide

end PlainSteps.Sentence
