import PlainSteps.Proofs.Parts
import PlainSteps.Settings

/-!
# Settings as variables

The settings of a project give each name at most one value, in the order of names
(`inOrder_of_ofYaml`). A token stands for the value that they give its key, and for nothing if
they give it none (`substitute_token_of_mem` and `substitute_token_of_not_mem`).
-/

namespace PlainSteps

theorem Text.precedes_iff (s t : Text) : Text.precedes s t ↔ s < t := by
  induction s generalizing t with
  | nil => cases t <;> simp [Text.precedes]
  | cons a s ih =>
      cases t with
      | nil => simp [Text.precedes]
      | cons b t =>
          have hchar : a.val < b.val ↔ a < b := Iff.rfl
          simp only [Text.precedes, Bool.or_eq_true, Bool.and_eq_true, decide_eq_true_eq,
            beq_iff_eq, ih, hchar, List.cons_lt_cons_iff]

namespace Variables

/-! ## Entries -/

/-- Each name has one entry, and the entries stand in the order of names. -/
def InOrder {α : Type} (entries : List (Text × α)) : Prop := entries.Pairwise fun d e => d.1 < e.1

section Entries

variable {α : Type}

theorem mem_put {name : Text} {value : α} {entries : List (Text × α)} {e : Text × α}
    (h : e ∈ put name value entries) : e = (name, value) ∨ e ∈ entries := by
  induction entries with
  | nil => exact .inl (List.mem_singleton.mp h)
  | cons d entries ih =>
      obtain ⟨n, v⟩ := d
      unfold put at h
      split at h
      · exact (List.mem_cons.mp h).imp_right (List.mem_cons_of_mem _)
      · split at h
        · exact List.mem_cons.mp h
        · rcases List.mem_cons.mp h with rfl | h
          · exact .inr List.mem_cons_self
          · exact (ih h).imp_right (List.mem_cons_of_mem _)

theorem InOrder.put {entries : List (Text × α)} (h : InOrder entries) (name : Text) (value : α) :
    InOrder (put name value entries) := by
  induction entries with
  | nil => exact List.pairwise_singleton ..
  | cons d entries ih =>
      obtain ⟨n, v⟩ := d
      obtain ⟨hhead, htail⟩ := List.pairwise_cons.mp h
      unfold Variables.put
      split
      next hname => exact List.pairwise_cons.mpr ⟨hname ▸ hhead, htail⟩
      next hname =>
        split
        next hbefore =>
          rw [Text.precedes_iff] at hbefore
          refine List.pairwise_cons.mpr ⟨fun e he => ?_, h⟩
          rcases List.mem_cons.mp he with rfl | he
          · exact hbefore
          · exact hbefore.trans (hhead e he)
        next hbefore =>
          rw [Text.precedes_iff] at hbefore
          refine List.pairwise_cons.mpr ⟨fun e he => ?_, ih htail⟩
          rcases mem_put he with rfl | he
          · exact lt_of_le_of_ne (not_lt.mp hbefore) hname
          · exact hhead e he

end Entries

theorem find?_put (x name value : Text) (entries : List (Text × Text)) :
    (put name value entries).find? (·.1 == x) =
      if name = x then some (name, value) else entries.find? (·.1 == x) := by
  induction entries with
  | nil => by_cases h : name = x <;> simp [put, h]
  | cons entry entries ih =>
      obtain ⟨n, v⟩ := entry
      unfold put
      by_cases hn : n = name
      · subst hn
        by_cases h : n = x <;> simp [h]
      · rw [if_neg hn]
        by_cases hbefore : Text.precedes name n
        · rw [if_pos hbefore]
          by_cases h : name = x
          · rw [if_pos h, List.find?_cons_of_pos (by simp [h])]
          · rw [if_neg h, List.find?_cons_of_neg (by simp [h])]
        · rw [if_neg hbefore, List.find?_cons, List.find?_cons, ih]
          by_cases h : name = x
          · rw [if_pos h, if_pos h, ← h, beq_false_of_ne hn]
          · rw [if_neg h, if_neg h]

theorem get?_insert (vs : Variables) (x name value : Text) :
    (vs.insert name value).get? x = if name = x then some value else vs.get? x := by
  rw [get?, insert, find?_put]
  by_cases h : name = x <;> simp [h, get?]

/-! ## Settings under their names -/

theorem get?_insertGlobal (vs : Variables) (key name : Text) (value : Option Text) :
    (vs.insertGlobal name value).get? (globalHead ++ key) =
      if name = key then value.or (vs.get? (globalHead ++ key))
      else vs.get? (globalHead ++ key) := by
  cases value with
  | none => simp [insertGlobal]
  | some v => simp [insertGlobal, get?_insert]

theorem get?_ofGlobals {settings : List (Text × Option Text)} (h : InOrder settings)
    (key v : Text) :
    (ofGlobals settings).get? (globalHead ++ key) = some v ↔ (key, some v) ∈ settings := by
  induction settings using List.reverseRecOn with
  | nil => simp [ofGlobals, get?]
  | append_singleton settings last ih =>
      obtain ⟨name, value⟩ := last
      obtain ⟨hinit, -, hlast⟩ := List.pairwise_append.mp h
      have hfold : ofGlobals (settings ++ [(name, value)]) =
          (ofGlobals settings).insertGlobal name value := List.foldl_append ..
      rw [hfold, get?_insertGlobal, List.mem_append, List.mem_singleton, ← ih hinit]
      by_cases hname : name = key
      · subst hname
        -- The names in front of the last one are others.
        have hnone : (ofGlobals settings).get? (globalHead ++ name) ≠ some v := fun hsome =>
          lt_irrefl name (hlast _ ((ih hinit).mp hsome) _ (List.mem_singleton_self _))
        cases value with
        | none => simp [hnone]
        | some w => simp [hnone, eq_comm]
      · simp [hname, Ne.symm hname]

end Variables

namespace Settings

/-- The settings give each name at most one value, in the order of names. -/
def InOrder (s : Settings) : Prop := Variables.InOrder s.globals

instance (s : Settings) : Decidable s.InOrder :=
  inferInstanceAs (Decidable (s.globals.Pairwise fun d e => d.1 < e.1))

theorem inOrder_of_globalsOfDatum? {d : Datum} {globals : List (Text × Option Text)}
    (h : globalsOfDatum? d = some globals) : Variables.InOrder globals := by
  simp only [globalsOfDatum?, Option.bind_eq_bind, Option.bind_eq_some_iff] at h
  obtain ⟨_, -, entries, -, hentries⟩ := h
  rw [← Option.some.inj hentries]
  exact List.foldlRecOn entries _ .nil fun globals hglobals e _ => hglobals.put e.1 e.2

/-- Whatever a settings file says, what is read from it is in order. -/
theorem inOrder_of_ofYaml {t : Text} {s : Settings} (h : ofYaml t = .ok s) : s.InOrder := by
  rw [ofYaml] at h
  split at h
  · rw [← Except.ok.inj h]
    exact .nil
  · split at h
    · cases h
    · split at h
      next d _ settings hread =>
        obtain rfl := Except.ok.inj h
        simp only [ofDatum?, Option.bind_eq_bind, Option.bind_eq_some_iff] at hread
        obtain ⟨_, -, fields, -, globals, hglobals, _, -, _, -, _, -, hsettings⟩ := hread
        rw [← Option.some.inj hsettings]
        cases fields with
        | none =>
            rw [← Option.some.inj hglobals]
            exact .nil
        | some d => exact inOrder_of_globalsOfDatum? hglobals
      · cases h

end Settings

/-! ## Tokens -/

/-- A key that a token can name: letters, digits, underscores and full stops. -/
def IsKey (key : Text) : Prop := key ≠ [] ∧ ∀ c ∈ key, isAlphanumeric c ∨ c = '_' ∨ c = '.'

instance (key : Text) : Decidable (IsKey key) := inferInstanceAs (Decidable (_ ∧ _))

/-- The token that refers to the setting of a key. -/
def token (key : Text) : Text := ['{', '{'] ++ (globalHead ++ key) ++ ['}', '}']

/-- Tokens are the only texts that refer to settings. -/
theorem globalName?_eq_some_iff {t name : Text} :
    globalName? t = some name ↔ ∃ key, IsKey key ∧ t = token key ∧ name = globalHead ++ key := by
  constructor
  · intro h
    simp only [globalName?, Option.bind_eq_bind, Option.bind_eq_some_iff] at h
    obtain ⟨behind, hbehind, name', hname', key, hkey, h⟩ := h
    split at h
    next hvalid =>
      obtain rfl := Option.some.inj h
      have hname := Text.dropHead?_eq_some hkey
      refine ⟨key, by simpa [IsKey, or_assoc] using hvalid, ?_, hname⟩
      rw [Text.dropHead?_eq_some hbehind, Text.dropTail?_eq_some hname', hname, token,
        List.append_assoc ['{', '{']]
    · cases h
  · rintro ⟨key, hkey, rfl, rfl⟩
    have hvalid : (!key.isEmpty && key.all fun c => isAlphanumeric c || c == '_' || c == '.') :=
      by simpa [IsKey, or_assoc] using hkey
    rw [globalName?, token, List.append_assoc ['{', '{'], Text.dropHead?_append]
    simp only [Option.bind_eq_bind, Option.bind_some, Text.dropTail?_append, Text.dropHead?_append,
      hvalid, if_true]

theorem Variables.substitute_token {key : Text} (hkey : IsKey key) (vs : Variables) :
    vs.substitute (token key) = vs.lookup (globalHead ++ key) := by
  rw [substitute, globalName?_eq_some_iff.mpr ⟨key, hkey, rfl, rfl⟩]

namespace Settings

variable {s : Settings} (hs : s.InOrder) {key : Text} (hkey : IsKey key)
include hs hkey

theorem substitute_token_of_mem {v : Text} (hv : (key, some v) ∈ s.globals) :
    s.values.substitute (token key) = .ok v := by
  rw [Variables.substitute_token hkey, Variables.lookup, values,
    (Variables.get?_ofGlobals hs key v).mpr hv]

theorem substitute_token_of_not_mem (hv : ∀ v, (key, some v) ∉ s.globals) :
    s.values.substitute (token key) = .error (.unknownVariable (globalHead ++ key)) := by
  have hnone : s.values.get? (globalHead ++ key) = none :=
    Option.eq_none_iff_forall_ne_some.mpr fun v hsome =>
      hv v ((Variables.get?_ofGlobals hs key v).mp hsome)
  rw [Variables.substitute_token hkey, Variables.lookup, hnone]

end Settings

end PlainSteps
