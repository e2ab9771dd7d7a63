import Mathlib.Data.List.Basic
import PlainSteps.Command.Codec
import PlainSteps.Proofs.Records
import PlainSteps.Regex.Builtin
import PlainSteps.Suite.Codec

/-!
# Commands and suites as they are written

Every command and every suite is read from its JSON form as it was. A step is written in a shape of
its own, and what is written fits no other shape (`shapes_toJson`). In general a map fits one shape
at most, because the two shapes of maps have no name of a field in common
(`length_shapes_of_not_isNumbered`). Only numbers are keys of both, where they stand for fields by
their places, as in `0: x`; JSON has no such keys.
-/

namespace PlainSteps

open Datum

/-! ## Names -/

theorem Action.find?_word (a : Action) : Action.all.find? (·.word == a.word) = some a := by
  cases a <;> decide

theorem Assertion.find?_name (a : Assertion) : Assertion.all.find? (·.name == a.name) = some a := by
  cases a <;> decide

theorem Aspect.find?_name (a : Aspect) : Aspect.all.find? (·.name == a.name) = some a := by
  cases a <;> decide

theorem SelectorMode.find?_name (m : SelectorMode) :
    SelectorMode.all.find? (·.name == m.name) = some m := by
  cases m <;> decide

theorem SliderKind.find?_name (k : SliderKind) :
    SliderKind.all.find? (·.name == k.name) = some k := by
  cases k <;> decide

/-! ## Commands -/

namespace Command

/-- The fields that a command is written with, those without a value included. -/
def fields (c : Command) : List (String × Option Json) :=
  [("action", some c.action.toJson), ("object", some (.text c.object)),
    ("elementType", some (.text c.elementType)), ("specifier", c.specifier.map .text),
    ("isSection", some (.bool c.isSection)),
    ("isNegativeAssertion", some (.bool c.isNegativeAssertion)),
    ("assertBehavior", c.assertion.map (.text ·.name)),
    ("valueBehavior", c.aspect.map (.text ·.name)),
    ("variableName", c.variableName.map .text), ("value", c.value.map .text)]

theorem nodup_fields (c : Command) : (c.fields.map (·.1)).Nodup := by
  simp only [fields, List.map_cons, List.map_nil]
  decide

theorem ofFields?_fields (c : Command) : ofFields? (fieldsOf c.fields) = some c := by
  have hc := c.nodup_fields
  have haction : required? "action" (choice? true Action.all Action.word) (fieldsOf c.fields) =
      choice? true Action.all Action.word (ofJson (.text c.action.word)) :=
    required?_fieldsOf hc (by simp [fields, Action.toJson])
  have hobject : required? "object" text? (fieldsOf c.fields) = text? (ofJson (.text c.object)) :=
    required?_fieldsOf hc (by simp [fields])
  have helementType : required? "elementType" text? (fieldsOf c.fields) =
      text? (ofJson (.text c.elementType)) :=
    required?_fieldsOf hc (by simp [fields])
  have hspecifier : optional? "specifier" text? (fieldsOf c.fields) = some c.specifier :=
    optional?_fieldsOf hc option?_ofText (by simp [fields])
  have hsection : unique? "isSection" (fieldsOf c.fields) =
      some ((some (Json.bool c.isSection)).map ofJson) :=
    unique?_fieldsOf hc (by simp [fields])
  have hnegative : unique? "isNegativeAssertion" (fieldsOf c.fields) =
      some ((some (Json.bool c.isNegativeAssertion)).map ofJson) :=
    unique?_fieldsOf hc (by simp [fields])
  have hassertion : optional? "assertBehavior" (choice? true Assertion.all Assertion.name)
      (fieldsOf c.fields) = some c.assertion :=
    optional?_fieldsOf hc (fun a => option?_choice a.find?_name true) (by simp [fields])
  have haspect : optional? "valueBehavior" (choice? true Aspect.all Aspect.name)
      (fieldsOf c.fields) = some c.aspect :=
    optional?_fieldsOf hc (fun a => option?_choice a.find?_name true) (by simp [fields])
  have hvariable : optional? "variableName" text? (fieldsOf c.fields) = some c.variableName :=
    optional?_fieldsOf hc option?_ofText (by simp [fields])
  have hvalue : optional? "value" text? (fieldsOf c.fields) = some c.value :=
    optional?_fieldsOf hc option?_ofText (by simp [fields])
  rw [choice?_ofText c.action.find?_word] at haction
  rw [ofFields?]
  simp only [haction, hobject, helementType, hspecifier, hsection, hnegative, hassertion, haspect,
    hvariable, hvalue]
  rfl

theorem ofJson?_toJson (c : Command) : ofJson? c.toJson = some c := by
  have hentries : ((fieldsOf c.fields).map fun f => (ofText f.1, f.2)).filterMap
      (fun e => e.1.text?.map (·, e.2)) = fieldsOf c.fields := by
    rw [List.filterMap_map]
    exact List.filterMap_some
  have hrecord : Datum.ofJson c.toJson =
      .map ((fieldsOf c.fields).map fun f => (ofText f.1, f.2)) :=
    ofJson_record c.fields
  rw [ofJson?, hrecord, ofDatum?, hentries]
  exact c.ofFields?_fields

end Command

/-! ## Steps -/

namespace Suite

theorem selector?_fieldsOf {fs : List (String × Option Json)} (hfs : (fs.map (·.1)).Nodup)
    {m : Option SelectorMode} (hmem : ("selector", m.map (.text ·.name)) ∈ fs) (loose : Bool) :
    selector? loose (fieldsOf fs) = some m :=
  optional?_fieldsOf hfs (fun m => option?_choice m.find?_name loose) hmem

theorem slider?_fieldsOf {fs : List (String × Option Json)} (hfs : (fs.map (·.1)).Nodup)
    {k : Option SliderKind} (hmem : ("sliderSelector", k.map (.text ·.name)) ∈ fs) (loose : Bool) :
    slider? loose (fieldsOf fs) = some k :=
  optional?_fieldsOf hfs (fun k => option?_choice k.find?_name loose) hmem

namespace Step

/-- The names of the fields of a sentence with settings. -/
def commandFields : List Text := ["command", "selector", "sliderSelector"]

/-- The names of the fields of a wait. -/
def navigationFields : List Text := ["waitForURL", "pageTitle"]

/-- The steps that a value is, one for each shape that it fits. -/
def shapes (d : Datum) : List Step :=
  match d.typed? with
  | none => []
  | some d =>
    (d.text?.map sentence).toList ++ ((commandOfDatum? d).toList ++ (navigationOfDatum? d).toList)

/-- The first shape that fits is taken. -/
theorem ofDatum?_eq (d : Datum) : ofDatum? d = (shapes d).head? := by
  rw [ofDatum?, shapes]
  cases d.typed? with
  | none => rfl
  | some d =>
      simp only [List.head?_append, Option.head?_toList]
      rfl

/-! ### Maps -/

/-- Every key of the map stands for one of the fields with some names. -/
def HasFields (names : List Text) (entries : List (Datum × Datum)) : Prop :=
  ∀ e ∈ entries, (fieldOf? names e.1).isSome

/-- A map that is read as a record has its fields for keys, whatever is made of them. -/
theorem hasFields_of_isSome_bind {names : List Text} {entries : List (Datum × Datum)} {d : Datum}
    {read : List (Text × Datum) → Option Step} (htyped : (Datum.map entries).typed? = some d)
    (h : ((d.record? true names).bind read).isSome) : HasFields names entries := by
  obtain ⟨s, hs⟩ := Option.isSome_iff_exists.mp h
  obtain ⟨fields, hfields, -⟩ := Option.bind_eq_some_iff.mp hs
  exact isSome_fieldOf? htyped hfields

/-- A step of a map is one of the two shapes that have the keys of the map as fields. -/
theorem shapes_map (entries : List (Datum × Datum)) :
    ∃ c n : Option Step, shapes (.map entries) = c.toList ++ n.toList ∧
      (c.isSome → HasFields commandFields entries) ∧
      (n.isSome → HasFields navigationFields entries) := by
  cases htyped : (Datum.map entries).typed? with
  | none =>
      refine ⟨none, none, ?_, nofun, nofun⟩
      rw [shapes, htyped]
      rfl
  | some d =>
      refine ⟨commandOfDatum? d, navigationOfDatum? d, ?_, ?_, ?_⟩
      · obtain ⟨typed, -, rfl⟩ := Option.map_eq_some_iff.mp htyped
        rw [shapes, htyped]
        rfl
      · intro hsome
        exact hasFields_of_isSome_bind htyped hsome
      · intro hsome
        exact hasFields_of_isSome_bind htyped hsome

theorem shapes_eq_nil {entries : List (Datum × Datum)} (hc : ¬ HasFields commandFields entries)
    (hn : ¬ HasFields navigationFields entries) : shapes (.map entries) = [] := by
  obtain ⟨c, n, heq, hcommand, hnavigation⟩ := shapes_map entries
  cases c with
  | some _ => exact absurd (hcommand rfl) hc
  | none =>
      cases n with
      | some _ => exact absurd (hnavigation rfl) hn
      | none => exact heq

theorem length_shapes_le_one {entries : List (Datum × Datum)}
    (h : ¬ (HasFields commandFields entries ∧ HasFields navigationFields entries)) :
    (shapes (.map entries)).length ≤ 1 := by
  obtain ⟨c, n, heq, hcommand, hnavigation⟩ := shapes_map entries
  rw [heq]
  cases c with
  | none => cases n <;> simp
  | some _ =>
      cases n with
      | none => simp
      | some _ => exact absurd ⟨hcommand rfl, hnavigation rfl⟩ h

/-- The map has entries, and each of its keys is the number of a place that both shapes have. -/
def IsNumbered (entries : List (Datum × Datum)) : Prop :=
  entries ≠ [] ∧ ∀ e ∈ entries, Counts 0 e.1 ∨ Counts 1 e.1

/-- The key is the name of a field of one of the shapes, or the number of its place. -/
def IsKnown (key : Datum) : Prop :=
  (∃ name ∈ commandFields ++ navigationFields, Spells name key) ∨
    ∃ n, 0 ≤ n ∧ n < 3 ∧ Counts n key

/-- No name is that of a field in both shapes, so that only numbers stand for fields of both. -/
theorem counts_of_fieldOf? {key : Datum} (hc : (fieldOf? commandFields key).isSome)
    (hn : (fieldOf? navigationFields key).isSome) : Counts 0 key ∨ Counts 1 key := by
  cases key with
  | scalar own asked written =>
      cases own with
      | int n =>
          obtain ⟨hpos, hlt⟩ := (isSome_fieldOf?_int _ _ _ _).mp hn
          change n.toNat < 2 at hlt
          obtain rfl | rfl : n = 0 ∨ n = 1 := by omega
          · exact .inl ⟨asked, written, rfl⟩
          · exact .inr ⟨asked, written, rfl⟩
      | text t =>
          have hcommand := (isSome_fieldOf?_text _ _ _ _).mp hc
          have hnavigation := (isSome_fieldOf?_text _ _ _ _).mp hn
          have hdisjoint : ∀ u ∈ commandFields, u ∉ navigationFields := by decide
          exact absurd hnavigation (hdisjoint t hcommand)
      | null | bool | float | unfit | notNull => cases hc
  | list | map | tagged => cases hc

theorem isKnown_of_fieldOf? {names : List Text} (hnames : names ⊆ commandFields ++ navigationFields)
    (hlength : names.length ≤ 3) {key : Datum} (h : (fieldOf? names key).isSome) : IsKnown key := by
  cases key with
  | scalar own asked written =>
      cases own with
      | int n =>
          obtain ⟨hpos, hlt⟩ := (isSome_fieldOf?_int _ _ _ _).mp h
          have hbound : n < 3 := by omega
          exact .inr ⟨n, hpos, hbound, asked, written, rfl⟩
      | text t =>
          have ht := (isSome_fieldOf?_text _ _ _ _).mp h
          exact .inl ⟨t, hnames ht, asked, written, rfl⟩
      | null | bool | float | unfit | notNull => cases h
  | list | map | tagged => cases h

/-- Without an entry there is no field of either shape. -/
theorem shapes_empty : shapes (.map []) = [] := rfl

theorem length_shapes_of_not_isNumbered {entries : List (Datum × Datum)}
    (h : ¬ IsNumbered entries) : (shapes (.map entries)).length ≤ 1 := by
  by_cases hempty : entries = []
  · rw [hempty, shapes_empty]
    exact Nat.zero_le 1
  · apply length_shapes_le_one
    rintro ⟨hc, hn⟩
    apply h
    exact ⟨hempty, fun e he => counts_of_fieldOf? (hc e he) (hn e he)⟩

theorem ofDatum?_of_not_hasFields {entries : List (Datum × Datum)}
    (hc : ¬ HasFields commandFields entries) (hn : ¬ HasFields navigationFields entries) :
    ofDatum? (.map entries) = none := by
  rw [ofDatum?_eq, shapes_eq_nil hc hn]
  rfl

/-- The sentence with settings and the wait have one field each that the other does not know. -/
theorem ofDatum?_of_mixed {entries : List (Datum × Datum)}
    (hcommand : ∃ e ∈ entries, Spells "command" e.1)
    (hurl : ∃ e ∈ entries, Spells "waitForURL" e.1) : ofDatum? (.map entries) = none := by
  obtain ⟨c, hc, casked, cwritten, hckey⟩ := hcommand
  obtain ⟨u, hu, uasked, uwritten, hukey⟩ := hurl
  apply ofDatum?_of_not_hasFields
  · intro h
    have hfield := h u hu
    rw [hukey, isSome_fieldOf?_text] at hfield
    exact absurd hfield (by decide)
  · intro h
    have hfield := h c hc
    rw [hckey, isSome_fieldOf?_text] at hfield
    exact absurd hfield (by decide)

theorem ofDatum?_of_not_isKnown {entries : List (Datum × Datum)}
    (h : ∃ e ∈ entries, ¬ IsKnown e.1) : ofDatum? (.map entries) = none := by
  obtain ⟨e, he, hkey⟩ := h
  apply ofDatum?_of_not_hasFields
  · intro hfields
    apply hkey
    exact isKnown_of_fieldOf? (List.subset_append_left _ _) (by decide) (hfields e he)
  · intro hfields
    apply hkey
    exact isKnown_of_fieldOf? (List.subset_append_right _ _) (by decide) (hfields e he)

/-! ### Written steps -/

/-- The fields that a step of a map is written with. -/
def fields : Step → List (String × Option Json)
  | sentence _ => []
  | command text selector slider => ("command", some (.text text)) :: settingsJson selector slider
  | navigation url title => [("waitForURL", some (.text url)), ("pageTitle", title.map .text)]

theorem nodup_fields (s : Step) : (s.fields.map (·.1)).Nodup := by
  cases s with
  | sentence text => exact List.nodup_nil
  | command text selector slider =>
      simp only [fields, settingsJson, List.map_cons, List.map_nil]
      decide
  | navigation url title =>
      simp only [fields, List.map_cons, List.map_nil]
      decide

theorem commandOfDatum?_fields (text : Text) (m : Option SelectorMode) (k : Option SliderKind) :
    commandOfDatum? (.ofJson (.record (command text m k).fields)) = some (.command text m k) := by
  have hfs := (command text m k).nodup_fields
  have htext : required? "command" text? (fieldsOf (command text m k).fields) =
      text? (Datum.ofJson (.text text)) :=
    required?_fieldsOf hfs (by simp [fields])
  have hselector := selector?_fieldsOf hfs (m := m) (by simp [fields, settingsJson]) true
  have hslider := slider?_fieldsOf hfs (k := k) (by simp [fields, settingsJson]) true
  have hrecord : (Datum.ofJson (.record (command text m k).fields)).record? true
      ["command", "selector", "sliderSelector"] = some (fieldsOf (command text m k).fields) :=
    record?_ofJson true (by simp [fields, settingsJson])
  rw [commandOfDatum?, hrecord]
  simp only [Option.bind_eq_bind, Option.bind_some, htext, hselector, hslider]
  rfl

theorem navigationOfDatum?_fields (url : Text) (title : Option Text) :
    navigationOfDatum? (.ofJson (.record (navigation url title).fields)) =
      some (.navigation url title) := by
  have hfs := (navigation url title).nodup_fields
  have hurl : required? "waitForURL" text? (fieldsOf (navigation url title).fields) =
      text? (Datum.ofJson (.text url)) :=
    required?_fieldsOf hfs (by simp [fields])
  have htitle : optional? "pageTitle" text? (fieldsOf (navigation url title).fields) =
      some title :=
    optional?_fieldsOf hfs option?_ofText (by simp [fields])
  have hrecord : (Datum.ofJson (.record (navigation url title).fields)).record? true
      ["waitForURL", "pageTitle"] = some (fieldsOf (navigation url title).fields) :=
    record?_ofJson true (by simp [fields])
  rw [navigationOfDatum?, hrecord]
  simp only [Option.bind_eq_bind, Option.bind_some, hurl, htitle]
  rfl

theorem not_isNumbered_ofJsonFields (fields : List (Text × Json)) :
    ¬ IsNumbered (ofJsonFields fields) := by
  rintro ⟨hne, hall⟩
  cases fields with
  | nil => exact hne rfl
  | cons f r =>
      rcases hall (ofText f.1, Datum.ofJson f.2) List.mem_cons_self with
        ⟨asked, written, hkey⟩ | ⟨asked, written, hkey⟩
      · cases hkey
      · cases hkey

theorem shapes_ofJson_object (fields : List (Text × Json)) :
    shapes (.ofJson (.object fields)) = (commandOfDatum? (.ofJson (.object fields))).toList ++
      (navigationOfDatum? (.ofJson (.object fields))).toList := by
  rw [shapes, typed?_ofJson]
  rfl

theorem length_shapes_ofJson_object (fields : List (Text × Json)) :
    (shapes (.ofJson (.object fields))).length ≤ 1 :=
  length_shapes_of_not_isNumbered (not_isNumbered_ofJsonFields fields)

/-- What is written of a step fits its own shape and no other. -/
theorem shapes_toJson (s : Step) : shapes (.ofJson s.toJson) = [s] := by
  cases s with
  | sentence text => rfl
  | command text m k =>
      have hone : (shapes (.ofJson (.record (command text m k).fields))).length ≤ 1 :=
        length_shapes_ofJson_object _
      change shapes (.ofJson (.record (command text m k).fields)) = _
      rw [Json.record, shapes_ofJson_object, ← Json.record, commandOfDatum?_fields] at hone ⊢
      cases hother : navigationOfDatum? (.ofJson (.record (command text m k).fields)) with
      | none => rfl
      | some _ => simp [hother] at hone
  | navigation url title =>
      have hone : (shapes (.ofJson (.record (navigation url title).fields))).length ≤ 1 :=
        length_shapes_ofJson_object _
      change shapes (.ofJson (.record (navigation url title).fields)) = _
      rw [Json.record, shapes_ofJson_object, ← Json.record, navigationOfDatum?_fields] at hone ⊢
      cases hother : commandOfDatum? (.ofJson (.record (navigation url title).fields)) with
      | none => rfl
      | some _ => simp [hother] at hone

theorem ofDatum?_toJson (s : Step) : ofDatum? (.ofJson s.toJson) = some s := by
  rw [ofDatum?_eq, shapes_toJson]
  rfl

end Step

/-! ## Suites -/

namespace Case

/-- The fields that a case is written with, those without a value included. -/
def fields (c : Case) : List (String × Option Json) :=
  [("name", some (.text c.name)), ("steps", some (.list (c.steps.map Step.toJson)))] ++
    settingsJson c.selector c.slider

theorem nodup_fields (c : Case) : (c.fields.map (·.1)).Nodup := by
  simp only [fields, settingsJson, List.cons_append, List.nil_append, List.map_cons, List.map_nil]
  decide

theorem ofDatum?_toJson (loose : Bool) (c : Case) :
    ofDatum? loose (.ofJson c.toJson) = some c := by
  have hc := c.nodup_fields
  have hname : required? "name" text? (fieldsOf c.fields) = text? (Datum.ofJson (.text c.name)) :=
    required?_fieldsOf hc (by simp [fields])
  have hlist : required? "steps" list? (fieldsOf c.fields) =
      list? (Datum.ofJson (.list (c.steps.map Step.toJson))) :=
    required?_fieldsOf hc (by simp [fields])
  have hsteps : ((c.steps.map Step.toJson).map Datum.ofJson).mapM Step.ofDatum? = some c.steps :=
    mapM_ofJson fun s _ => s.ofDatum?_toJson
  have hselector := selector?_fieldsOf hc (m := c.selector) (by simp [fields, settingsJson]) loose
  have hslider := slider?_fieldsOf hc (k := c.slider) (by simp [fields, settingsJson]) loose
  have hrecord : (Datum.ofJson c.toJson).record? loose
      ["name", "steps", "selector", "sliderSelector"] = some (fieldsOf c.fields) := by
    apply record?_ofJson
    simp [settingsJson]
  rw [list?_ofJson] at hlist
  rw [ofDatum?, hrecord]
  simp only [Option.bind_eq_bind, Option.bind_some, hlist, hname, hsteps, hselector, hslider]
  rfl

end Case

/-- The fields that a suite is written with, those without a value included. -/
def fields (s : Suite) : List (String × Option Json) :=
  settingsJson s.selector s.slider ++ [("tests", some (.list (s.cases.map Case.toJson)))]

theorem nodup_fields (s : Suite) : (s.fields.map (·.1)).Nodup := by
  simp only [fields, settingsJson, List.cons_append, List.nil_append, List.map_cons, List.map_nil]
  decide

theorem ofDatum?_toJson (loose : Bool) (s : Suite) :
    ofDatum? loose (.ofJson s.toJson) = some s := by
  have hs := s.nodup_fields
  have hlist : required? "tests" list? (fieldsOf s.fields) =
      list? (Datum.ofJson (.list (s.cases.map Case.toJson))) :=
    required?_fieldsOf hs (by simp [fields])
  have hcases : ((s.cases.map Case.toJson).map Datum.ofJson).mapM (Case.ofDatum? loose) =
      some s.cases :=
    mapM_ofJson fun c _ => c.ofDatum?_toJson loose
  have hselector := selector?_fieldsOf hs (m := s.selector) (by simp [fields, settingsJson]) loose
  have hslider := slider?_fieldsOf hs (k := s.slider) (by simp [fields, settingsJson]) loose
  have hrecord : (Datum.ofJson s.toJson).record? loose ["selector", "sliderSelector", "tests"] =
      some (fieldsOf s.fields) := by
    apply record?_ofJson
    simp [settingsJson]
  rw [list?_ofJson] at hlist
  rw [ofDatum?, hrecord]
  simp only [Option.bind_eq_bind, Option.bind_some, hlist, hcases, hselector, hslider]
  rfl

/-! ## What is written, and what is no step -/

/-- What is written is read as it was, each step in its own shape. A map is a step of one shape at
most, unless all its keys are numbers that both shapes know; with names of fields of both shapes, or
with a key of none, it is no step. -/
theorem toJson_faithful :
    (∀ c : Command, Command.ofJson? c.toJson = some c) ∧
      (∀ (loose : Bool) (s : Suite), ofDatum? loose (.ofJson s.toJson) = some s) ∧
      (∀ s : Step, Step.shapes (.ofJson s.toJson) = [s]) ∧
      (∀ fields : List (Text × Json), (Step.shapes (.ofJson (.object fields))).length ≤ 1) ∧
      ∀ entries : List (Datum × Datum),
        (¬ Step.IsNumbered entries → (Step.shapes (.map entries)).length ≤ 1) ∧
        ((∃ e ∈ entries, Spells "command" e.1) → (∃ e ∈ entries, Spells "waitForURL" e.1) →
          Step.ofDatum? (.map entries) = none) ∧
        ((∃ e ∈ entries, ¬ Step.IsKnown e.1) → Step.ofDatum? (.map entries) = none) := by
  refine ⟨Command.ofJson?_toJson, ofDatum?_toJson, Step.shapes_toJson,
    Step.length_shapes_ofJson_object, fun entries => ⟨?_, ?_, ?_⟩⟩
  · intro h
    exact Step.length_shapes_of_not_isNumbered h
  · intro hcommand hurl
    exact Step.ofDatum?_of_mixed hcommand hurl
  · intro h
    exact Step.ofDatum?_of_not_isKnown h

/-- A sentence that also waits, and a field that no step has. -/
theorem toJson_faithful_mixed :
    (Step.shapes (.map [(ofText "command", ofText "Click \"Save\".")])).length ≤ 1 ∧
      Step.ofDatum? (.map [(ofText "command", ofText "Click \"Save\"."),
        (ofText "waitForURL", ofText "/")]) = none ∧
      Step.ofDatum? (.map [(ofText "press", ofText "Enter")]) = none := by
  obtain ⟨-, -, -, -, hmaps⟩ := toJson_faithful
  refine ⟨(hmaps _).1 ?_, (hmaps _).2.1 ?_ ?_, (hmaps _).2.2 ?_⟩
  · rintro ⟨-, hall⟩
    rcases hall _ List.mem_cons_self with ⟨asked, written, hkey⟩ | ⟨asked, written, hkey⟩
    · cases hkey
    · cases hkey
  · exact ⟨_, List.mem_cons_self, _, _, rfl⟩
  · exact ⟨_, List.mem_cons_of_mem _ List.mem_cons_self, _, _, rfl⟩
  · refine ⟨_, List.mem_cons_self, ?_⟩
    rintro (⟨name, hname, asked, written, hkey⟩ | ⟨n, -, -, asked, written, hkey⟩)
    · obtain rfl : name = "press" := by
        cases hkey
        rfl
      exact absurd hname (by decide)
    · cases hkey

open Regex.Builtin

/-- The key of this map is the place of a field in two shapes, of which the first is taken. -/
theorem shapes_place_ne :
    (Yaml.read "0: x\n").toOption.map Step.shapes =
        some [.command "x" none none, .navigation "x" none] ∧
      (ofYaml "tests:\n- name: a\n  steps:\n  - 0: x\n").toOption =
        some { cases := [{ name := "a", steps := [.command "x" none none] }] } := by
  decide +kernel

end Suite

end PlainSteps
