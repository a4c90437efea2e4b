/-
  Maps and values of `serde_json`, as they are held.

  A `Map` has its keys in order, and a number that is no integer is written with a point or
  an exponent: `Json.Valid`.

  * `JsonMap.Sorted.ext`: a map is what it holds.
  * `JsonMap.ofFields_inj`: a map that is made of fields tells them.
  * `Json.sortObject_of_valid`: sorting leaves a value as it is.
  * `Json.snakeToCamelJson_ofFields`: the conversion of an object, field by field.
-/
import Ga4Mcp.Tools.Json
import Mathlib.Data.Char
import Mathlib.Data.List.Lex
import Mathlib.Data.List.Nodup
import Mathlib.Data.List.Perm.Basic

namespace Ga4Mcp.Tools

/-! ## Maps -/

namespace JsonMap

/-- The keys stand in their order, each of them once. -/
def Sorted (fields : JsonMap) : Prop := fields.Pairwise fun field other => field.1 < other.1

theorem mem_insert {key : Text} {value : Json} {fields : JsonMap} {field : Text × Json}
    (h : field ∈ insert key value fields) : field = (key, value) ∨ field ∈ fields := by
  induction fields with
  | nil => exact .inl (List.mem_singleton.mp h)
  | cons first fields ih =>
      rw [insert] at h
      split at h
      · rcases List.mem_cons.mp h with rfl | h
        · exact .inl rfl
        · exact .inr (List.mem_cons_of_mem _ h)
      · split at h
        · exact List.mem_cons.mp h
        · rcases List.mem_cons.mp h with rfl | h
          · exact .inr List.mem_cons_self
          · exact (ih h).imp_right (List.mem_cons_of_mem _)

theorem insert_sorted (key : Text) (value : Json) {fields : JsonMap} (h : Sorted fields) :
    Sorted (insert key value fields) := by
  induction fields with
  | nil => exact List.pairwise_singleton _ _
  | cons first fields ih =>
      obtain ⟨hfirst, hfields⟩ := List.pairwise_cons.mp h
      rw [insert]
      split
      · next hkey => exact List.pairwise_cons.mpr ⟨hkey ▸ hfirst, hfields⟩
      · next hne =>
          split
          · next hlt =>
              refine List.pairwise_cons.mpr ⟨fun field hfield => ?_, h⟩
              rcases List.mem_cons.mp hfield with rfl | hfield
              · exact hlt
              · exact hlt.trans (hfirst field hfield)
          · next hle =>
              refine List.pairwise_cons.mpr ⟨fun field hfield => ?_, ih hfields⟩
              rcases mem_insert hfield with rfl | hfield
              · exact lt_of_le_of_ne (not_lt.mp hle) (Ne.symm hne)
              · exact hfirst field hfield

theorem insertSome_sorted (key : Text) (value : Option Json) {fields : JsonMap}
    (h : Sorted fields) : Sorted (insertSome key value fields) := by
  cases value with
  | none => exact h
  | some value => exact insert_sorted key value h

theorem ofFields_sorted (fields : List (Text × Json)) : Sorted (ofFields fields) := by
  have hfold : ∀ map : JsonMap, Sorted map →
      Sorted (fields.foldl (fun map field => insert field.1 field.2 map) map) := by
    induction fields with
    | nil => exact fun map h => h
    | cons field fields ih => exact fun map h => ih _ (insert_sorted field.1 field.2 h)
  exact hfold [] List.Pairwise.nil

theorem get_cons (field : Text × Json) (fields : JsonMap) (key : Text) :
    get (field :: fields) key = if field.1 = key then some field.2 else get fields key := by
  rw [get, List.find?_cons]
  by_cases h : field.1 = key
  · simp [h]
  · simp [h, get]

theorem get_eq_none {key : Text} {fields : JsonMap} (h : ∀ field ∈ fields, field.1 ≠ key) :
    get fields key = none := by
  induction fields with
  | nil => rfl
  | cons field fields ih =>
      rw [get_cons, if_neg (h field List.mem_cons_self)]
      exact ih fun other hother => h other (List.mem_cons_of_mem _ hother)

/-- The first key of a map is the least one. -/
theorem Sorted.not_lt_of_get {field : Text × Json} {fields : JsonMap}
    (h : Sorted (field :: fields)) {key : Text} (hkey : get (field :: fields) key ≠ none) :
    ¬ key < field.1 := by
  intro hlt
  refine hkey (get_eq_none fun other hother => ?_)
  rcases List.mem_cons.mp hother with rfl | hother
  · exact hlt.ne'
  · exact (hlt.trans ((List.pairwise_cons.mp h).1 other hother)).ne'

theorem Sorted.get_tail {field : Text × Json} {fields : JsonMap} (h : Sorted (field :: fields))
    (key : Text) :
    get fields key = if field.1 = key then none else get (field :: fields) key := by
  by_cases hkey : field.1 = key
  · rw [if_pos hkey]
    exact get_eq_none fun other hother =>
      hkey ▸ ((List.pairwise_cons.mp h).1 other hother).ne'
  · rw [if_neg hkey, get_cons, if_neg hkey]

/-- **A map** is what it holds. -/
theorem Sorted.ext {fields others : JsonMap} (h : Sorted fields) (h' : Sorted others)
    (hget : ∀ key, get fields key = get others key) : fields = others := by
  induction fields generalizing others with
  | nil =>
      cases others with
      | nil => rfl
      | cons other others => simpa [get_cons] using hget other.1
  | cons field fields ih =>
      cases others with
      | nil => simpa [get_cons] using hget field.1
      | cons other others =>
          have hfield : get (field :: fields) field.1 = some field.2 := by simp [get_cons]
          have hother : get (other :: others) other.1 = some other.2 := by simp [get_cons]
          have hle : ¬ other.1 < field.1 := h.not_lt_of_get (by rw [hget, hother]; simp)
          have hge : ¬ field.1 < other.1 := h'.not_lt_of_get (by rw [← hget, hfield]; simp)
          have hkey : field.1 = other.1 := le_antisymm (not_lt.mp hle) (not_lt.mp hge)
          have hvalue : field.2 = other.2 := by
            rw [← Option.some_inj, ← hfield, ← hother, hget, hkey]
          have htail : fields = others := by
            refine ih (List.pairwise_cons.mp h).2 (List.pairwise_cons.mp h').2 fun key => ?_
            rw [h.get_tail, h'.get_tail, hget, hkey]
          rw [htail, Prod.ext hkey hvalue]

end JsonMap

/-! ## Values -/

/-- A character of a number. -/
def isNumberChar (c : Char) : Bool := c.isDigit || c ∈ ['-', '+', '.', 'e']

/-- The text of a number that is no integer. -/
def isFloatText (t : Text) : Bool :=
  t.head?.any (fun c => c.isDigit || c = '-') && t.all isNumberChar && t.any (· ∈ ['.', 'e'])

/-- A float is written as one. -/
def JsonNumber.Valid : JsonNumber → Prop
  | .float written => isFloatText written = true
  | _ => True

namespace Json

mutual

/-- A value as `serde_json` holds it. -/
def Valid : Json → Prop
  | number value => value.Valid
  | array values => ValidValues values
  | object fields => JsonMap.Sorted fields ∧ ValidFields fields
  | _ => True

/-- Every value of an array is valid. -/
def ValidValues : List Json → Prop
  | [] => True
  | value :: values => Valid value ∧ ValidValues values

/-- Every value of an object is valid. -/
def ValidFields : List (Text × Json) → Prop
  | [] => True
  | (_, value) :: fields => Valid value ∧ ValidFields fields

end

theorem validValues_iff {values : List Json} :
    ValidValues values ↔ ∀ value ∈ values, Valid value := by
  induction values with
  | nil => simp [ValidValues]
  | cons value values ih => simp [ValidValues, ih]

theorem validFields_iff {fields : List (Text × Json)} :
    ValidFields fields ↔ ∀ field ∈ fields, Valid field.2 := by
  induction fields with
  | nil => simp [ValidFields]
  | cons field fields ih => simp [ValidFields, ih]

theorem valid_array {values : List Json} :
    Valid (array values) ↔ ∀ value ∈ values, Valid value := by
  rw [Valid, validValues_iff]

theorem valid_object {fields : JsonMap} :
    Valid (object fields) ↔ fields.Sorted ∧ ∀ field ∈ fields, Valid field.2 := by
  rw [Valid, validFields_iff]

end Json

namespace JsonMap

theorem mem_ofFields {fields : List (Text × Json)} {field : Text × Json}
    (h : field ∈ ofFields fields) : field ∈ fields := by
  have hfold : ∀ map : JsonMap,
      field ∈ fields.foldl (fun map field => insert field.1 field.2 map) map →
        field ∈ map ∨ field ∈ fields := by
    clear h
    induction fields with
    | nil => exact fun map h => .inl h
    | cons first fields ih =>
        intro map h
        rcases ih _ h with h | h
        · rcases mem_insert h with rfl | h
          · exact .inr List.mem_cons_self
          · exact .inl h
        · exact .inr (List.mem_cons_of_mem _ h)
  exact (hfold [] h).resolve_left List.not_mem_nil

/-- Fields in order are a map already. -/
theorem ofFields_of_sorted {fields : JsonMap} (h : Sorted fields) : ofFields fields = fields := by
  have hfold : ∀ map rest : JsonMap, Sorted (map ++ rest) →
      rest.foldl (fun map field => insert field.1 field.2 map) map = map ++ rest := by
    have hinsert : ∀ (map : JsonMap) (field : Text × Json), Sorted (map ++ [field]) →
        insert field.1 field.2 map = map ++ [field] := by
      intro map field hsorted
      induction map with
      | nil => rfl
      | cons first map ih =>
          obtain ⟨hfirst, hmap⟩ := List.pairwise_cons.mp hsorted
          have hlt : first.1 < field.1 :=
            hfirst field (List.mem_append_right _ (List.mem_singleton_self field))
          rw [insert, if_neg hlt.ne', if_neg hlt.not_gt, ih hmap]
          rfl
    intro map rest
    induction rest generalizing map with
    | nil => exact fun _ => (List.append_nil map).symm
    | cons field rest ih =>
        intro hsorted
        rw [← List.singleton_append, ← List.append_assoc] at hsorted
        rw [List.foldl_cons, hinsert map field (List.pairwise_append.mp hsorted).1, ih _ hsorted,
          List.append_assoc, List.singleton_append]
  exact hfold [] fields h

end JsonMap

namespace Json

theorem valid_ofFields {fields : List (String × Json)} (h : ∀ field ∈ fields, Valid field.2) :
    Valid (ofFields fields) := by
  refine valid_object.mpr ⟨JsonMap.ofFields_sorted _, fun field hfield => ?_⟩
  obtain ⟨source, hsource, rfl⟩ := List.mem_map.mp (JsonMap.mem_ofFields hfield)
  exact h source hsource

mutual

/-- Sorting leaves a value as it is. -/
theorem sortObject_of_valid : ∀ value : Json, Valid value → sortObject value = value
  | null, _ => rfl
  | bool _, _ => rfl
  | number _, _ => rfl
  | string _, _ => rfl
  | array values, h => by rw [sortObject, sortValues_of_valid values h]
  | object fields, h => by
      rw [sortObject, sortFields_of_valid fields h.2, JsonMap.ofFields_of_sorted h.1]

theorem sortValues_of_valid : ∀ values : List Json, ValidValues values → sortValues values = values
  | [], _ => rfl
  | value :: values, h => by
      rw [sortValues, sortObject_of_valid value h.1, sortValues_of_valid values h.2]

theorem sortFields_of_valid : ∀ fields : List (Text × Json), ValidFields fields →
    sortFields fields = fields
  | [], _ => rfl
  | (key, value) :: fields, h => by
      rw [sortFields, sortObject_of_valid value h.1, sortFields_of_valid fields h.2]

end

end Json

/-! ## Fields -/

namespace JsonMap

theorem mem_of_get {fields : JsonMap} {key : Text} {value : Json}
    (h : get fields key = some value) : (key, value) ∈ fields := by
  obtain ⟨field, hfind, rfl⟩ := Option.map_eq_some_iff.mp h
  have hkey : field.1 = key := by simpa using List.find?_some hfind
  rw [← hkey]
  exact List.mem_of_find?_eq_some hfind

theorem Sorted.get_of_mem {fields : JsonMap} (h : Sorted fields) {field : Text × Json}
    (hfield : field ∈ fields) : get fields field.1 = some field.2 := by
  induction fields with
  | nil => cases hfield
  | cons first fields ih =>
      obtain ⟨hfirst, hfields⟩ := List.pairwise_cons.mp h
      rw [get_cons]
      rcases List.mem_cons.mp hfield with rfl | hfield
      · exact if_pos rfl
      · rw [if_neg (hfirst field hfield).ne, ih hfields hfield]

theorem Sorted.ext_mem {fields others : JsonMap} (h : Sorted fields) (h' : Sorted others)
    (hmem : ∀ field, field ∈ fields ↔ field ∈ others) : fields = others := by
  refine h.ext h' fun key => Option.ext fun value => ?_
  constructor
  · intro hget
    exact h'.get_of_mem ((hmem _).mp (mem_of_get hget))
  · intro hget
    exact h.get_of_mem ((hmem _).mpr (mem_of_get hget))

theorem mem_ofFields_iff {fields : List (Text × Json)} (hnodup : (fields.map Prod.fst).Nodup)
    {field : Text × Json} : field ∈ ofFields fields ↔ field ∈ fields := by
  refine ⟨mem_ofFields, fun hfield => ?_⟩
  have hother : ∀ (rest : List (Text × Json)) (map : JsonMap) (key : Text),
      key ∉ rest.map Prod.fst →
        get (rest.foldl (fun map field => insert field.1 field.2 map) map) key = get map key := by
    intro rest
    induction rest with
    | nil => exact fun _ _ _ => rfl
    | cons first rest ih =>
        intro map key hkey
        rw [List.map_cons, List.mem_cons, not_or] at hkey
        rw [List.foldl_cons, ih _ _ hkey.2, get_insert, if_neg (Ne.symm hkey.1)]
  have hget : ∀ (rest : List (Text × Json)) (map : JsonMap), (rest.map Prod.fst).Nodup →
      field ∈ rest → get (rest.foldl (fun map field => insert field.1 field.2 map) map) field.1 =
        some field.2 := by
    intro rest
    induction rest with
    | nil => exact fun _ _ hfield => by cases hfield
    | cons first rest ih =>
        intro map hnodup hfield
        obtain ⟨hfirst, hrest⟩ := List.nodup_cons.mp hnodup
        rw [List.foldl_cons]
        rcases List.mem_cons.mp hfield with rfl | hfield
        · rw [hother rest _ _ hfirst, get_insert, if_pos rfl]
        · exact ih _ hrest hfield
  exact mem_of_get (hget fields [] hnodup hfield)

/-- **A map of fields** tells them. -/
theorem ofFields_inj {fields others : List (Text × Json)}
    (hkeys : fields.map Prod.fst = others.map Prod.fst) (hnodup : (fields.map Prod.fst).Nodup)
    (h : ofFields fields = ofFields others) : fields = others := by
  have hmem : ∀ field, field ∈ fields → field ∈ others := by
    intro field hfield
    rw [← mem_ofFields_iff hnodup, h, mem_ofFields_iff (hkeys ▸ hnodup)] at hfield
    exact hfield
  clear h
  induction fields generalizing others with
  | nil => exact (List.map_eq_nil_iff.mp hkeys.symm).symm
  | cons field fields ih =>
      cases others with
      | nil => cases hkeys
      | cons other others =>
          rw [List.map_cons, List.map_cons, List.cons.injEq] at hkeys
          obtain ⟨hfield, hfields⟩ := List.nodup_cons.mp hnodup
          have hhead : field = other := by
            rcases List.mem_cons.mp (hmem field List.mem_cons_self) with heq | htail
            · exact heq
            · exact absurd (hkeys.2 ▸ List.mem_map_of_mem htail) hfield
          have htail : fields = others := by
            refine ih hkeys.2 hfields fun field' hfield' => ?_
            rcases List.mem_cons.mp (hmem field' (List.mem_cons_of_mem _ hfield')) with rfl | h
            · exact absurd (hhead ▸ List.mem_map_of_mem hfield') hfield
            · exact h
          rw [hhead, htail]

/-- `Map::remove`. -/
def remove (key : Text) (fields : JsonMap) : JsonMap := fields.filter fun field => field.1 ≠ key

theorem remove_sorted (key : Text) {fields : JsonMap} (h : Sorted fields) :
    Sorted (remove key fields) :=
  List.Pairwise.filter _ h

@[simp]
theorem get_remove (key key' : Text) (fields : JsonMap) :
    get (remove key fields) key' = if key = key' then none else get fields key' := by
  induction fields with
  | nil => simp [remove]
  | cons field fields ih =>
      rw [remove] at ih ⊢
      by_cases hkey : field.1 = key
      · rw [List.filter_cons_of_neg (by simpa using hkey), ih, get_cons, hkey]
        split <;> rfl
      · rw [List.filter_cons_of_pos (by simpa using hkey), get_cons, get_cons, ih]
        by_cases hfield : field.1 = key'
        · rw [if_pos hfield, if_pos hfield, if_neg (hfield ▸ Ne.symm hkey)]
        · rw [if_neg hfield, if_neg hfield]

theorem remove_insert {key key' : Text} (hne : key ≠ key') (value : Json) {fields : JsonMap}
    (h : Sorted fields) : remove key (insert key' value fields) =
      insert key' value (remove key fields) := by
  refine (remove_sorted _ (insert_sorted _ _ h)).ext (insert_sorted _ _ (remove_sorted _ h))
    fun other => ?_
  simp only [get_remove, get_insert]
  by_cases hkey : key = other
  · subst hkey
    rw [if_pos rfl, if_neg (Ne.symm hne), if_pos rfl]
  · rw [if_neg hkey, if_neg hkey]

end JsonMap

/-! ## Keys in camel case -/

namespace Json

theorem camelValues_eq_map (values : List Json) :
    camelValues values = values.map snakeToCamelJson := by
  induction values with
  | nil => rfl
  | cons value values ih => rw [camelValues, ih, List.map_cons]

theorem camelFields_eq_map (fields : List (Text × Json)) :
    camelFields fields =
      fields.map fun field => (snakeKeyToCamel field.1, snakeToCamelJson field.2) := by
  induction fields with
  | nil => rfl
  | cons field fields ih => rw [camelFields, ih, List.map_cons]

theorem snakeToCamelJson_array (values : List Json) :
    snakeToCamelJson (array values) = array (values.map snakeToCamelJson) := by
  rw [snakeToCamelJson, camelValues_eq_map]

/-- Fields whose keys stay different are converted one by one. -/
theorem snakeToCamelJson_ofFields {fields : List (Text × Json)}
    (hnodup : (fields.map fun field => snakeKeyToCamel field.1).Nodup) :
    snakeToCamelJson (object (JsonMap.ofFields fields)) = object (JsonMap.ofFields
      (fields.map fun field => (snakeKeyToCamel field.1, snakeToCamelJson field.2))) := by
  have hkeys : (fields.map Prod.fst).Nodup := by
    refine List.Nodup.of_map snakeKeyToCamel ?_
    rwa [List.map_map]
  have hsorted := JsonMap.ofFields_sorted fields
  have hperm : (JsonMap.ofFields fields).Perm fields := by
    refine (List.perm_ext_iff_of_nodup ?_ (List.Nodup.of_map Prod.fst hkeys)).mpr fun field =>
      JsonMap.mem_ofFields_iff hkeys
    exact hsorted.imp fun h heq => h.ne (congrArg Prod.fst heq)
  have hnodup' : ((fields.map fun field =>
      (snakeKeyToCamel field.1, snakeToCamelJson field.2)).map Prod.fst).Nodup := by
    rwa [List.map_map]
  have hcamel : ((JsonMap.ofFields fields).map fun field =>
      (snakeKeyToCamel field.1, snakeToCamelJson field.2)).Perm
        (fields.map fun field => (snakeKeyToCamel field.1, snakeToCamelJson field.2)) :=
    hperm.map _
  rw [snakeToCamelJson, camelFields_eq_map]
  refine congrArg object ((JsonMap.ofFields_sorted _).ext_mem (JsonMap.ofFields_sorted _)
    fun field => ?_)
  rw [JsonMap.mem_ofFields_iff ((hcamel.map Prod.fst).nodup_iff.mpr hnodup'),
    JsonMap.mem_ofFields_iff hnodup', hcamel.mem_iff]

mutual

theorem valid_snakeToCamelJson : ∀ value : Json, Valid value → Valid (snakeToCamelJson value)
  | null, _ => trivial
  | bool _, _ => trivial
  | number _, h => h
  | string _, _ => trivial
  | array values, h => validValues_camelValues values h
  | object fields, h => by
      rw [snakeToCamelJson, valid_object]
      refine ⟨JsonMap.ofFields_sorted _, fun field hfield => ?_⟩
      exact validFields_iff.mp (validFields_camelFields fields h.2) field
        (JsonMap.mem_ofFields hfield)

theorem validValues_camelValues : ∀ values : List Json, ValidValues values →
    ValidValues (camelValues values)
  | [], _ => trivial
  | value :: values, h =>
      ⟨valid_snakeToCamelJson value h.1, validValues_camelValues values h.2⟩

theorem validFields_camelFields : ∀ fields : List (Text × Json), ValidFields fields →
    ValidFields (camelFields fields)
  | [], _ => trivial
  | (_, value) :: fields, h =>
      ⟨valid_snakeToCamelJson value h.1, validFields_camelFields fields h.2⟩

end

end Json

end Ga4Mcp.Tools
