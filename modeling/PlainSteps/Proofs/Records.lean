import Mathlib.Data.List.Basic
import PlainSteps.Datum

/-!
# Records that are written and read

A record is written with the fields that have a value, and read field by field. If no two of its
fields have the same name, each is read as it was written, and one that was left out as absent
(`unique?_fieldsOf`). JSON has no scalars but those of its own types, so that taking its values by
their own types changes nothing (`typed?_ofJson`).
-/

namespace PlainSteps.Datum

/-! ## JSON values -/

theorem ofJsonList_eq (js : List Json) : ofJsonList js = js.map ofJson := by
  induction js with
  | nil => rfl
  | cons j r ih => rw [ofJsonList, ih, List.map_cons]

theorem ofJsonFields_eq (fields : List (Text × Json)) :
    ofJsonFields fields = fields.map fun f => (ofText f.1, ofJson f.2) := by
  induction fields with
  | nil => rfl
  | cons f r ih =>
      rw [ofJsonFields, ih, List.map_cons]

mutual

theorem typed?_ofJson : ∀ j : Json, (ofJson j).typed? = some (ofJson j)
  | .null | .bool _ | .int _ | .text _ => rfl
  | .list items => by
      rw [ofJson, typed?, typedItems?_ofJsonList items]
      rfl
  | .object fields => by
      rw [ofJson, typed?, typedEntries?_ofJsonFields fields]
      rfl

theorem typedItems?_ofJsonList :
    ∀ js : List Json, typedItems? (ofJsonList js) = some (ofJsonList js)
  | [] => rfl
  | j :: r => by
      rw [ofJsonList, typedItems?, typed?_ofJson j, typedItems?_ofJsonList r]
      rfl

theorem typedEntries?_ofJsonFields :
    ∀ fields : List (Text × Json), typedEntries? (ofJsonFields fields) = some (ofJsonFields fields)
  | [] => rfl
  | (k, j) :: r => by
      rw [ofJsonFields, typedEntries?, typed?_ofJson j, typedEntries?_ofJsonFields r]
      rfl

end

/-! ## The fields of a record -/

/-- The fields of a record that are written, as they are read. -/
def fieldsOf (fs : List (String × Option Json)) : List (Text × Datum) :=
  fs.filterMap fun (name, value) => value.map fun j => (name.toList, ofJson j)

theorem ofJson_record (fs : List (String × Option Json)) :
    ofJson (.record fs) = .map ((fieldsOf fs).map fun f => (ofText f.1, f.2)) := by
  rw [Json.record, ofJson, ofJsonFields_eq, fieldsOf, List.map_filterMap, List.map_filterMap]
  congr 2
  funext ⟨name, value⟩
  cases value <;> rfl

theorem exists_of_mem_fieldsOf {fs : List (String × Option Json)} {f : Text × Datum}
    (h : f ∈ fieldsOf fs) : ∃ name ∈ fs.map (·.1), f.1 = name.toList := by
  obtain ⟨⟨name, value⟩, hmem, hf⟩ := List.mem_filterMap.mp h
  obtain ⟨j, -, rfl⟩ := Option.map_eq_some_iff.mp hf
  exact ⟨name, List.mem_map_of_mem hmem, rfl⟩

theorem filter_fieldsOf_of_not_mem {fs : List (String × Option Json)} {name : String}
    (h : name ∉ fs.map (·.1)) : (fieldsOf fs).filter (·.1 == name.toList) = [] := by
  rw [List.filter_eq_nil_iff]
  intro f hf hname
  obtain ⟨other, hother, heq⟩ := exists_of_mem_fieldsOf hf
  rw [heq, beq_iff_eq, String.toList_inj] at hname
  rw [← hname] at h
  exact h hother

theorem filter_fieldsOf {fs : List (String × Option Json)} {name : String} {value : Option Json}
    (hfs : (fs.map (·.1)).Nodup) (hmem : (name, value) ∈ fs) :
    (fieldsOf fs).filter (·.1 == name.toList) =
      (value.map fun j => (name.toList, ofJson j)).toList := by
  induction fs with
  | nil => cases hmem
  | cons f r ih =>
      obtain ⟨other, v⟩ := f
      obtain ⟨hfresh, hr⟩ := List.nodup_cons.mp hfs
      have hcons : fieldsOf ((other, v) :: r) =
          (v.map fun j => (other.toList, ofJson j)).toList ++ fieldsOf r := by
        cases v <;> rfl
      rw [hcons, List.filter_append]
      rcases List.mem_cons.mp hmem with heq | hmem
      · obtain ⟨rfl, rfl⟩ := Prod.mk.inj heq
        rw [filter_fieldsOf_of_not_mem hfresh, List.append_nil]
        cases value <;> simp
      · have hne : other ≠ name := by
          rintro rfl
          exact hfresh (List.mem_map.mpr ⟨_, hmem, rfl⟩)
        rw [ih hr hmem]
        cases v <;> simp [String.toList_inj, hne]

/-! ## Reading them -/

section

variable {fs : List (String × Option Json)} (hfs : (fs.map (·.1)).Nodup)
include hfs

theorem unique?_fieldsOf {name : String} {value : Option Json} (hmem : (name, value) ∈ fs) :
    unique? name.toList (fieldsOf fs) = some (value.map ofJson) := by
  rw [unique?, filter_fieldsOf hfs hmem]
  cases value <;> rfl

theorem required?_fieldsOf {α : Type} {read : Datum → Option α} {name : String} {j : Json}
    (hmem : (name, some j) ∈ fs) : required? name.toList read (fieldsOf fs) = read (ofJson j) := by
  rw [required?, unique?_fieldsOf hfs hmem]
  rfl

/-- A field that may be left out is read as it was written, if its values are. -/
theorem optional?_fieldsOf {α : Type} {read : Datum → Option α} {write : α → Json}
    (hread : ∀ a, option? read (ofJson (write a)) = some (some a)) {name : String} {v : Option α}
    (hmem : (name, v.map write) ∈ fs) : optional? name.toList read (fieldsOf fs) = some v := by
  rw [optional?, unique?_fieldsOf hfs hmem]
  cases v with
  | none => rfl
  | some a => exact hread a

end

theorem option?_ofText (t : Text) : option? text? (ofJson (.text t)) = some (some t) := rfl

/-- A name that is found among all names is read as what it names. -/
theorem choice?_ofText {α : Type} {all : List α} {name : α → Text} {a : α}
    (h : all.find? (name · == name a) = some a) (loose : Bool) :
    choice? loose all name (ofJson (.text (name a))) = some a := h

theorem option?_choice {α : Type} {all : List α} {name : α → Text} {a : α}
    (h : all.find? (name · == name a) = some a) (loose : Bool) :
    option? (choice? loose all name) (ofJson (.text (name a))) = some (some a) := by
  change (choice? loose all name (ofJson (.text (name a)))).map some = _
  rw [choice?_ofText h]
  rfl

/-- A reader that knows the names takes all fields, and refuses the record if it does not. -/
theorem record?_ofJson {fs : List (String × Option Json)} {names : List Text} (loose : Bool)
    (h : ∀ name ∈ fs.map (·.1), name.toList ∈ names) :
    (ofJson (.record fs)).record? loose names = some (fieldsOf fs) := by
  have hall : ∀ f ∈ fieldsOf fs, fieldName? names (ofText f.1) = some f.1 := by
    intro f hf
    obtain ⟨name, hname, heq⟩ := exists_of_mem_fieldsOf hf
    have hmem : f.1 ∈ names := by
      rw [heq]
      exact h name hname
    simp [fieldName?, ofText, text?, bare, hmem]
  have hmap : (ofJson (.record fs)).record? loose names =
      ((fieldsOf fs).map fun f => (ofText f.1, f.2)).mapM
        fun e => (fieldName? names e.1).map (·, e.2) := by
    rw [ofJson_record]
    cases loose <;> rfl
  rw [hmap]
  clear hmap
  generalize fieldsOf fs = fields at hall ⊢
  induction fields with
  | nil => rfl
  | cons f r ih =>
      obtain ⟨hf, hr⟩ := List.forall_mem_cons.mp hall
      rw [List.map_cons, List.mapM_cons, ih hr]
      simp [hf]

theorem list?_ofJson (js : List Json) : list? (ofJson (.list js)) = some (js.map ofJson) := by
  rw [ofJson, ofJsonList_eq]
  rfl

/-- Items are read as they were written if each is. -/
theorem mapM_ofJson {α : Type} {read : Datum → Option α} {write : α → Json} {xs : List α}
    (h : ∀ x ∈ xs, read (ofJson (write x)) = some x) :
    ((xs.map write).map ofJson).mapM read = some xs := by
  induction xs with
  | nil => rfl
  | cons x r ih =>
      obtain ⟨hx, hr⟩ := List.forall_mem_cons.mp h
      rw [List.map_cons, List.map_cons, List.mapM_cons, hx, ih hr]
      rfl

/-! ## Keys -/

/-- The key is a number by its own type. -/
def Counts (n : Int) (key : Datum) : Prop := ∃ asked written, key = .scalar (.int n) asked written

/-- The key is a text by its own type. -/
def Spells (t : Text) (key : Datum) : Prop := ∃ asked written, key = .scalar (.text t) asked written

/-- The field that a key stands for, of those with some names: a text for the one that it names, and
a number for the one in its place. -/
def fieldOf? (names : List Text) : Datum → Option Text
  | .scalar (.text t) _ _ => if names.contains t then some t else none
  | .scalar (.int n) _ _ => if 0 ≤ n then names[n.toNat]? else none
  | _ => none

theorem isSome_fieldOf?_int (names : List Text) (n : Int) (asked : ScalarValue)
    (written : Option Text) :
    (fieldOf? names (.scalar (.int n) asked written)).isSome ↔ 0 ≤ n ∧ n.toNat < names.length := by
  by_cases h : 0 ≤ n
  · simp [fieldOf?, h]
  · simp [fieldOf?, h]

theorem isSome_fieldOf?_text (names : List Text) (t : Text) (asked : ScalarValue)
    (written : Option Text) :
    (fieldOf? names (.scalar (.text t) asked written)).isSome ↔ t ∈ names := by
  simp [fieldOf?]

theorem fieldName?_of_typed? {names : List Text} {key key' : Datum} (h : key.typed? = some key') :
    fieldName? names key' = fieldOf? names key := by
  cases key with
  | scalar own asked written =>
      cases own with
      | text t =>
          obtain rfl := Option.some.inj h
          by_cases ht : t ∈ names
          · simp [fieldName?, ofText, text?, bare, fieldOf?, ht]
          · simp [fieldName?, ofText, text?, bare, fieldOf?, ht]
      | unfit | notNull => cases h
      | null | bool | int | float =>
          obtain rfl := Option.some.inj h
          rfl
  | list items =>
      obtain ⟨items', -, rfl⟩ := Option.map_eq_some_iff.mp h
      rfl
  | map entries =>
      obtain ⟨entries', -, rfl⟩ := Option.map_eq_some_iff.mp h
      rfl
  | tagged tag value => cases h

theorem exists_of_typedEntries? {entries typed : List (Datum × Datum)}
    (h : typedEntries? entries = some typed) :
    ∀ e ∈ entries, ∃ e' ∈ typed, e.1.typed? = some e'.1 := by
  induction entries generalizing typed with
  | nil => exact nofun
  | cons e r ih =>
      obtain ⟨k, v⟩ := e
      rw [typedEntries?] at h
      simp only [Option.bind_eq_bind, Option.bind_eq_some_iff] at h
      obtain ⟨k', hk, v', -, r', hr, h⟩ := h
      obtain rfl := Option.some.inj h
      intro e he
      rcases List.mem_cons.mp he with rfl | he
      · exact ⟨(k', v'), List.mem_cons_self, hk⟩
      · obtain ⟨e', he', hkey⟩ := ih hr e he
        exact ⟨e', List.mem_cons_of_mem _ he', hkey⟩

theorem isSome_of_mapM {α β : Type} {f : α → Option β} {xs : List α} {ys : List β}
    (h : xs.mapM f = some ys) : ∀ x ∈ xs, (f x).isSome := by
  induction xs generalizing ys with
  | nil => exact nofun
  | cons x r ih =>
      rw [List.mapM_cons] at h
      simp only [Option.bind_eq_bind, Option.bind_eq_some_iff] at h
      obtain ⟨y, hy, ys', hr, -⟩ := h
      exact List.forall_mem_cons.mpr ⟨Option.isSome_of_eq_some hy, ih hr⟩

/-- Every key of a map that is read as a record stands for a field of it. -/
theorem isSome_fieldOf? {names : List Text} {entries : List (Datum × Datum)} {d : Datum}
    {fields : List (Text × Datum)} (htyped : (Datum.map entries).typed? = some d)
    (h : d.record? true names = some fields) : ∀ e ∈ entries, (fieldOf? names e.1).isSome := by
  obtain ⟨typed, hentries, rfl⟩ := Option.map_eq_some_iff.mp htyped
  have hmap : typed.mapM (fun e => (fieldName? names e.1).map (·, e.2)) = some fields := h
  intro e he
  obtain ⟨e', he', hkey⟩ := exists_of_typedEntries? hentries e he
  have hfield := isSome_of_mapM hmap e' he'
  rw [← fieldName?_of_typed? hkey]
  simpa using hfield

end PlainSteps.Datum
