/-
  Keys in camel case: what `snake_to_camel_json` of `src/ga_client.rs` makes of any value.

  * `Json.Camel`: the keys of a value, at every depth, stand in order and have no underscore.
  * `Json.camel_snakeToCamelJson`, `Json.snakeToCamelJson_of_camel`: a converted value is such a
    value, and the conversion leaves such a value as it is.
  * `Json.snakeToCamelJson_idem`: so the conversion can be made once or twice.
  * `get_camelFields`: of the keys that become one, the last one is converted.
  * `Json.Leads`: paths into a value. `Json.LeadsLast.converted`, `Json.LeadsTo.source`: the
    paths of a converted value are those of the value by such last keys.
  * `Json.snakeToCamelJson_normalizes`: what the conversion keeps and what it moves.
-/
import Ga4Mcp.Tools.JsonMaps

namespace Ga4Mcp.Tools

namespace Json

/-! ## Keys -/

theorem toUpper_ne_underscore {c : Char} (h : c ≠ '_') : c.toUpper ≠ '_' := by
  by_cases hlower : 'a'.val ≤ c.val ∧ c.val ≤ 'z'.val
  · have hlt : c.toNat < 123 := Nat.lt_succ_of_le (UInt32.le_iff_toNat_le.mp hlower.2)
    exact Text.forall_char_lt (p := fun c => c ≠ '_' → c.toUpper ≠ '_') 123 (by decide) c hlt h
  · have hself : c.toUpper = c := dif_neg hlower
    rwa [hself]

theorem underscore_not_mem_camelChars (uppercaseNext : Bool) (key : Text) :
    '_' ∉ camelChars uppercaseNext key := by
  induction key generalizing uppercaseNext with
  | nil => simp [camelChars]
  | cons ch rest ih =>
      rw [camelChars]
      split
      · exact ih true
      · next hch =>
          split
          · rw [List.mem_cons, not_or]
            exact ⟨Ne.symm (toUpper_ne_underscore hch), ih false⟩
          · rw [List.mem_cons, not_or]
            exact ⟨Ne.symm hch, ih false⟩

theorem underscore_not_mem_snakeKeyToCamel (key : Text) : '_' ∉ snakeKeyToCamel key := by
  unfold snakeKeyToCamel
  split
  · exact underscore_not_mem_camelChars false key
  · assumption

theorem snakeKeyToCamel_of_not_mem {key : Text} (h : '_' ∉ key) : snakeKeyToCamel key = key :=
  if_neg h

/-! ## Values -/

mutual

/-- The keys, at every depth, stand in order and have no underscore. -/
def Camel : Json → Prop
  | array values => CamelValues values
  | object fields => JsonMap.Sorted fields ∧ CamelFields fields
  | _ => True

/-- The same of the values of an array. -/
def CamelValues : List Json → Prop
  | [] => True
  | value :: values => Camel value ∧ CamelValues values

/-- The same of the fields of an object. -/
def CamelFields : List (Text × Json) → Prop
  | [] => True
  | (key, value) :: fields => '_' ∉ key ∧ Camel value ∧ CamelFields fields

end

theorem camelFields_iff {fields : List (Text × Json)} :
    CamelFields fields ↔ ∀ field ∈ fields, '_' ∉ field.1 ∧ Camel field.2 := by
  induction fields with
  | nil => simp [CamelFields]
  | cons field fields ih => simp [CamelFields, ih, and_assoc]

theorem camelValues_iff {values : List Json} :
    CamelValues values ↔ ∀ value ∈ values, Camel value := by
  induction values with
  | nil => simp [CamelValues]
  | cons value values ih => simp [CamelValues, ih]

mutual

theorem camel_snakeToCamelJson : ∀ value : Json, Camel (snakeToCamelJson value)
  | null => trivial
  | bool _ => trivial
  | number _ => trivial
  | string _ => trivial
  | array values => camelValues_camelValues values
  | object fields => by
      refine ⟨JsonMap.ofFields_sorted _, camelFields_iff.mpr fun field hfield => ?_⟩
      exact camelFields_camelFields fields field (JsonMap.mem_ofFields hfield)

theorem camelValues_camelValues : ∀ values : List Json, CamelValues (camelValues values)
  | [] => trivial
  | value :: values => ⟨camel_snakeToCamelJson value, camelValues_camelValues values⟩

theorem camelFields_camelFields : ∀ fields : List (Text × Json),
    ∀ field ∈ camelFields fields, '_' ∉ field.1 ∧ Camel field.2
  | [], _, hfield => absurd hfield List.not_mem_nil
  | (key, value) :: fields, field, hfield => by
      rcases List.mem_cons.mp hfield with rfl | hfield
      · exact ⟨underscore_not_mem_snakeKeyToCamel key, camel_snakeToCamelJson value⟩
      · exact camelFields_camelFields fields field hfield

end

mutual

theorem snakeToCamelJson_of_camel : ∀ value : Json, Camel value → snakeToCamelJson value = value
  | null, _ => rfl
  | bool _, _ => rfl
  | number _, _ => rfl
  | string _, _ => rfl
  | array values, h => by rw [snakeToCamelJson, camelValues_of_camel values h]
  | object fields, h => by
      rw [snakeToCamelJson, camelFields_of_camel fields h.2, JsonMap.ofFields_of_sorted h.1]

theorem camelValues_of_camel : ∀ values : List Json, CamelValues values →
    camelValues values = values
  | [], _ => rfl
  | value :: values, h => by
      rw [camelValues, snakeToCamelJson_of_camel value h.1, camelValues_of_camel values h.2]

theorem camelFields_of_camel : ∀ fields : List (Text × Json), CamelFields fields →
    camelFields fields = fields
  | [], _ => rfl
  | (key, value) :: fields, h => by
      rw [camelFields, snakeKeyToCamel_of_not_mem h.1, snakeToCamelJson_of_camel value h.2.1,
        camelFields_of_camel fields h.2.2]

end

/-- **Converted once or twice**, a value is the same. -/
theorem snakeToCamelJson_idem (value : Json) :
    snakeToCamelJson (snakeToCamelJson value) = snakeToCamelJson value :=
  snakeToCamelJson_of_camel _ (camel_snakeToCamelJson value)

end Json

/-! ## Collapsing keys -/

/-- The last field, in the order of the keys, whose key becomes `target`. -/
def lastSpelled (fields : JsonMap) (target : Text) : Option (Text × Json) :=
  (fields.filter fun field => Json.snakeKeyToCamel field.1 = target).getLast?

theorem JsonMap.get_ofFields_getLast (fields : List (Text × Json)) (key : Text) :
    get (ofFields fields) key =
      ((fields.filter fun field => field.1 = key).getLast?).map Prod.snd := by
  have hfold : ∀ map : JsonMap,
      get (fields.foldl (fun map field => insert field.1 field.2 map) map) key =
        ((fields.filter fun field => field.1 = key).getLast?.map Prod.snd).or (get map key) := by
    induction fields with
    | nil => exact fun map => rfl
    | cons field fields ih =>
        intro map
        rw [List.foldl_cons, ih, get_insert]
        by_cases hkey : field.1 = key
        · rw [if_pos hkey, List.filter_cons_of_pos (by simpa using hkey), List.getLast?_cons]
          cases (fields.filter fun field => field.1 = key).getLast? <;> rfl
        · rw [if_neg hkey, List.filter_cons_of_neg (by simpa using hkey)]
  exact (hfold []).trans (Option.or_none ..)

/-- **Of the keys that become one**, the last one is converted. -/
theorem get_camelFields (fields : JsonMap) (target : Text) :
    (Json.snakeToCamelJson (.object fields)).get target =
      (lastSpelled fields target).map fun field => field.2.snakeToCamelJson := by
  change JsonMap.get (JsonMap.ofFields (Json.camelFields fields)) target = _
  rw [JsonMap.get_ofFields_getLast, Json.camelFields_eq_map, List.filter_map, List.getLast?_map,
    Option.map_map]
  rfl

theorem lastSpelled_isSome {fields : JsonMap} {target : Text} {field : Text × Json}
    (hmem : field ∈ fields) (hkey : Json.snakeKeyToCamel field.1 = target) :
    ∃ last, lastSpelled fields target = some last := by
  refine Option.isSome_iff_exists.mp (List.getLast?_isSome.mpr ?_)
  exact List.ne_nil_of_mem (List.mem_filter.mpr ⟨hmem, decide_eq_true hkey⟩)

theorem mem_of_lastSpelled {fields : JsonMap} {target : Text} {field : Text × Json}
    (h : lastSpelled fields target = some field) : field ∈ fields :=
  List.mem_of_mem_filter (List.mem_of_getLast? h)

theorem key_of_lastSpelled {fields : JsonMap} {target : Text} {field : Text × Json}
    (h : lastSpelled fields target = some field) : Json.snakeKeyToCamel field.1 = target := by
  simpa using (List.mem_filter.mp (List.mem_of_getLast? h)).2

/-- The fields of a converted object. -/
theorem mem_ofFields_camelFields {fields : JsonMap} {key : Text} {value : Json} :
    (key, value) ∈ JsonMap.ofFields (Json.camelFields fields) ↔
      ∃ field, lastSpelled fields key = some field ∧ field.2.snakeToCamelJson = value := by
  rw [← Option.map_eq_some_iff, ← get_camelFields]
  exact ⟨fun h => (JsonMap.ofFields_sorted _).get_of_mem h, JsonMap.mem_of_get⟩

/-- Where one key only becomes `target`, it is the last one. -/
theorem lastSpelled_of_apart {fields : JsonMap} {field : Text × Json} (hfield : field ∈ fields)
    (apart : ∀ other ∈ fields,
      Json.snakeKeyToCamel other.1 = Json.snakeKeyToCamel field.1 → other = field) :
    lastSpelled fields (Json.snakeKeyToCamel field.1) = some field := by
  obtain ⟨last, hlast⟩ := lastSpelled_isSome hfield rfl
  rw [hlast, apart last (mem_of_lastSpelled hlast) (key_of_lastSpelled hlast)]

/-! ## Places in a value -/

/-- One step into a value: to an item of an array, or to a field of an object. -/
inductive JsonStep where
  | item (index : Nat)
  | field (key : Text)
deriving DecidableEq, Repr

/-- The step into the converted value. -/
def JsonStep.camel : JsonStep → JsonStep
  | item index => item index
  | field key => field (Json.snakeKeyToCamel key)

namespace Json

/-- A path into a value, and what it leads to. `keep` says which fields of an object the path
    may take. -/
inductive Leads (keep : JsonMap → Text × Json → Prop) : Json → List JsonStep → Json → Prop where
  | here (inner : Json) : Leads keep inner [] inner
  | item {values : List Json} {index : Nat} {value inner : Json} {path : List JsonStep}
      (get : values[index]? = some value) (tail : Leads keep value path inner) :
      Leads keep (array values) (.item index :: path) inner
  | field {fields : JsonMap} {key : Text} {value inner : Json} {path : List JsonStep}
      (mem : (key, value) ∈ fields) (kept : keep fields (key, value))
      (tail : Leads keep value path inner) :
      Leads keep (object fields) (.field key :: path) inner

/-- By any fields. -/
def LeadsTo : Json → List JsonStep → Json → Prop := Leads fun _ _ => True

/-- By fields whose keys do not collapse with another key of their object. -/
def LeadsApart : Json → List JsonStep → Json → Prop := Leads fun fields field =>
  ∀ other ∈ fields, snakeKeyToCamel other.1 = snakeKeyToCamel field.1 → other = field

/-- By fields that are the last of those whose keys collapse. -/
def LeadsLast : Json → List JsonStep → Json → Prop := Leads fun fields field =>
  lastSpelled fields (snakeKeyToCamel field.1) = some field

theorem Leads.mono {keep allow : JsonMap → Text × Json → Prop}
    (h : ∀ fields, ∀ field ∈ fields, keep fields field → allow fields field)
    {value inner : Json} {path : List JsonStep} (hpath : Leads keep value path inner) :
    Leads allow value path inner := by
  induction hpath with
  | here inner => exact .here inner
  | item get tail ih => exact .item get ih
  | field mem kept tail ih => exact .field mem (h _ _ mem kept) ih

theorem LeadsApart.last {value inner : Json} {path : List JsonStep}
    (h : value.LeadsApart path inner) : value.LeadsLast path inner :=
  h.mono fun _ _ hfield apart => lastSpelled_of_apart hfield apart

theorem LeadsLast.to {value inner : Json} {path : List JsonStep}
    (h : value.LeadsLast path inner) : value.LeadsTo path inner :=
  h.mono fun _ _ _ _ => trivial

/-- What stands at a path is still there after the conversion, converted. -/
theorem LeadsLast.converted {value inner : Json} {path : List JsonStep}
    (h : value.LeadsLast path inner) :
    (snakeToCamelJson value).LeadsTo (path.map JsonStep.camel) (snakeToCamelJson inner) := by
  induction h with
  | here inner => exact .here _
  | @item values index value inner path get tail ih =>
      rw [snakeToCamelJson_array]
      exact .item (by rw [List.getElem?_map, get]; rfl) ih
  | @field fields key value inner path mem kept tail ih =>
      exact .field (mem_ofFields_camelFields.mpr ⟨_, kept, rfl⟩) trivial ih

theorem eq_array_of_snakeToCamelJson {value : Json} {converted : List Json}
    (h : snakeToCamelJson value = array converted) :
    ∃ values, value = array values ∧ converted = values.map snakeToCamelJson := by
  cases value with
  | array values =>
      rw [snakeToCamelJson_array] at h
      exact ⟨values, rfl, (Json.array.inj h).symm⟩
  | _ => cases h

theorem eq_object_of_snakeToCamelJson {value : Json} {converted : JsonMap}
    (h : snakeToCamelJson value = object converted) :
    ∃ fields, value = object fields ∧ converted = JsonMap.ofFields (camelFields fields) := by
  cases value with
  | object fields => exact ⟨fields, rfl, (Json.object.inj h).symm⟩
  | _ => cases h

/-- What stands at a path after the conversion was there before it. -/
theorem LeadsTo.source {value converted : Json} {path : List JsonStep}
    (h : (snakeToCamelJson value).LeadsTo path converted) :
    ∃ source inner, source.map JsonStep.camel = path ∧ value.LeadsLast source inner ∧
      converted = snakeToCamelJson inner := by
  generalize hvalue : snakeToCamelJson value = whole at h
  induction h generalizing value with
  | here inner => exact ⟨[], value, rfl, .here value, hvalue.symm⟩
  | @item values index item inner path get tail ih =>
      obtain ⟨originals, rfl, rfl⟩ := eq_array_of_snakeToCamelJson hvalue
      rw [List.getElem?_map] at get
      obtain ⟨original, horiginal, hitem⟩ := Option.map_eq_some_iff.mp get
      obtain ⟨source, inner, rfl, hsource, rfl⟩ := ih hitem
      exact ⟨.item index :: source, inner, rfl, .item horiginal hsource, rfl⟩
  | @field fields key item inner path mem kept tail ih =>
      obtain ⟨originals, rfl, rfl⟩ := eq_object_of_snakeToCamelJson hvalue
      obtain ⟨original, hlast, hitem⟩ := mem_ofFields_camelFields.mp mem
      obtain rfl := key_of_lastSpelled hlast
      obtain ⟨source, inner, rfl, hsource, rfl⟩ := ih hitem
      exact ⟨.field original.1 :: source, inner, rfl,
        .field (mem_of_lastSpelled hlast) hlast hsource, rfl⟩

/-- Every part of a value in camel case is in camel case. -/
theorem Leads.camel {keep : JsonMap → Text × Json → Prop} {value inner : Json}
    {path : List JsonStep} (h : Leads keep value path inner) (hvalue : Camel value) :
    Camel inner := by
  induction h with
  | here inner => exact hvalue
  | item get tail ih => exact ih (camelValues_iff.mp hvalue _ (List.mem_of_getElem? get))
  | field mem kept tail ih => exact ih (camelFields_iff.mp hvalue.2 _ mem).2

/-- In camel case a path leads to one value. -/
theorem Leads.unique {value inner other : Json} {path : List JsonStep}
    (h : value.LeadsTo path inner) (hvalue : Camel value) (h' : value.LeadsTo path other) :
    other = inner := by
  induction h with
  | here inner =>
      cases h'
      rfl
  | item get tail ih =>
      cases h' with
      | item get' tail' =>
          obtain rfl := Option.some.inj (get.symm.trans get')
          exact ih (camelValues_iff.mp hvalue _ (List.mem_of_getElem? get)) tail'
  | @field fields key value inner path mem kept tail ih =>
      cases h' with
      | @field _ _ value' _ _ mem' kept' tail' =>
          have hget : fields.get key = some value := hvalue.1.get_of_mem mem
          have hget' : fields.get key = some value' := hvalue.1.get_of_mem mem'
          obtain rfl := Option.some.inj (hget.symm.trans hget')
          exact ih (camelFields_iff.mp hvalue.2 _ mem).2 tail'

/-! ## The converted value -/

theorem LeadsApart.leadsTo_iff {value inner : Json} {path : List JsonStep}
    (h : value.LeadsApart path inner) (part : Json) :
    (snakeToCamelJson value).LeadsTo (path.map JsonStep.camel) part ↔
      part = snakeToCamelJson inner := by
  have hconverted := h.last.converted
  exact ⟨fun hpart => Leads.unique hconverted (camel_snakeToCamelJson value) hpart,
    fun hpart => hpart ▸ hconverted⟩

/-- Neither an array nor an object. -/
def isScalar : Json → Bool
  | array _ => false
  | object _ => false
  | _ => true

theorem snakeToCamelJson_scalar {value : Json} (h : value.isScalar) :
    snakeToCamelJson value = value := by
  cases value with
  | array values => cases h
  | object fields => cases h
  | _ => rfl

/-- What `converted` keeps of `value`. The paths of `scalars` and `arrays` are paths of `value`
    that meet no collapsed key; `arrayOf` is about every array of `converted`. -/
structure KeysNormalized (value converted : Json) : Prop where
  stable : snakeToCamelJson converted = converted
  keys : ∀ path fields, converted.LeadsTo path (object fields) → ∀ field ∈ fields, '_' ∉ field.1
  scalars : ∀ path scalar, scalar.isScalar → value.LeadsApart path scalar →
    ∀ part, converted.LeadsTo (path.map JsonStep.camel) part ↔ part = scalar
  arrays : ∀ path values, value.LeadsApart path (array values) →
    ∀ part, converted.LeadsTo (path.map JsonStep.camel) part ↔
      part = array (values.map snakeToCamelJson)
  arrayOf : ∀ path items, converted.LeadsTo path (array items) →
    ∃ source values, source.map JsonStep.camel = path ∧ value.LeadsTo source (array values) ∧
      items = values.map snakeToCamelJson

/-- **Normalising the keys** can be done once or twice, leaves no underscore, and moves nothing
    but the keys that collapse. -/
theorem snakeToCamelJson_normalizes (value : Json) :
    KeysNormalized value (snakeToCamelJson value) where
  stable := snakeToCamelJson_idem value
  keys path fields hpath field hfield :=
    (camelFields_iff.mp (hpath.camel (camel_snakeToCamelJson value)).2 field hfield).1
  scalars path scalar hscalar hpath part := by
    rw [hpath.leadsTo_iff, snakeToCamelJson_scalar hscalar]
  arrays path values hpath part := by
    rw [hpath.leadsTo_iff, snakeToCamelJson_array]
  arrayOf path items hpath := by
    obtain ⟨source, inner, hsource, hinner, heq⟩ := hpath.source
    obtain ⟨values, rfl, hitems⟩ := eq_array_of_snakeToCamelJson heq.symm
    exact ⟨source, values, hsource, hinner.to, hitems⟩

theorem snakeToCamelJson_normalizes_merged : ∀ part,
    (snakeToCamelJson (object [(text "aB", null), (text "a_b", ofNat 1),
      (text "c_d", array [null, object [(text "_e_f", string (text "x_y"))]])])).LeadsTo
        [.field (text "cD"), .item 1, .field (text "EF")] part ↔ part = string (text "x_y") := by
  have hinner : (object [(text "_e_f", string (text "x_y"))]).LeadsApart [.field (text "_e_f")]
      (string (text "x_y")) :=
    .field (.head _) (List.forall_mem_singleton.mpr fun _ => rfl) (.here _)
  refine (snakeToCamelJson_normalizes _).scalars
    [.field (text "c_d"), .item 1, .field (text "_e_f")] _ rfl
    (.field (.tail _ (.tail _ (.head _))) ?_ (.item rfl hinner))
  refine List.forall_mem_cons.mpr ⟨fun h => absurd h (by decide), ?_⟩
  refine List.forall_mem_cons.mpr ⟨fun h => absurd h (by decide), ?_⟩
  exact List.forall_mem_singleton.mpr fun _ => rfl

end Json

end Ga4Mcp.Tools
