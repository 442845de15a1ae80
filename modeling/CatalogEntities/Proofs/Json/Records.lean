import CatalogEntities.Json.Decode
import CatalogEntities.Proofs.Dictionary
import CatalogEntities.Settings.Validity

/-!
# `Proofs/Json/Records.lean` — what a decoder accepts

A value can be written in more than one way: a record as an object or as an array, an object with
its members in any order, with members that nobody asked for, and without some that have a default.
The **normal form** of a value is the one way in which it would be written back. It is found without
knowing what the value means: an array becomes the object of its elements, the members are put in
the order of declaration, all others are dropped, and what is absent is filled in.

A decoder is **exact** if it reads a value as `x` just when the normal form is what `x` is written
as (`Exact`). That says at once that nothing is lost, that every variant is accepted, and that
nothing else is. Decoders of single values and of lists are exact for themselves; for a record it
is enough to know what it takes from an object and from an array (`exact_record`).

The fields of a record are data here (`RecordField`), though each decoder is written out field by
field. So the lemmas are about lists of fields, and a record takes part by showing that its decoder
fills the slots of its list, once for objects and once for arrays. A field that is added to a record
changes its list and these two lemmas, and nothing that is proved of normal forms.
-/

set_option autoImplicit false

namespace CatalogEntities.Json

open CatalogEntities.Shape (Fault)

/-! ## Normal forms -/

/-- **A field of a record**: its name, what stands for it where it is absent, if anything does, and
the normal form of its value. -/
structure RecordField where
  name : String
  absent : Option Json
  normal : Json → Json

/-- An array of elements is the object that has them under the names of the fields, in their order.
One with too many elements is left alone. -/
def byName (fields : List RecordField) : Json → Json
  | array items =>
      if items.length ≤ fields.length then object ((fields.map RecordField.name).zip items)
      else array items
  | value => value

/-- The value of a field in its normal form, or what stands for it. -/
def RecordField.slot (f : RecordField) (found : Option Json) : Option Json :=
  (found.map f.normal).or f.absent

/-- **The normal form of a record**: the object of its fields, in their order. -/
def normalRecord (fields : List RecordField) (value : Json) : Json :=
  match byName fields value with
  | object found =>
      object (fields.filterMap fun f =>
        (f.slot ((members found).find? f.name)).map fun v => (f.name, v))
  | other => other

/-- The normal form of a list. -/
def normalItems (normal : Json → Json) : Json → Json
  | array items => array (items.map normal)
  | value => value

/-- The normal form of a map, the members of which are in no order of their own. -/
def normalMap : Json → Json
  | object found => object (members found).entries
  | value => value

/-- **An exact decoder**, for a way of writing values. -/
structure Exact {α : Type} (decode : Decoder α) (normal : Json → Json) (encode : α → Json) :
    Prop where
  iff : ∀ v x, decode v = .ok x ↔ normal v = encode x
  /-- What is written is in its normal form. -/
  stable : ∀ x, normal (encode x) = encode x

namespace Exact

variable {α : Type} {decode : Decoder α} {normal : Json → Json} {encode : α → Json}

theorem roundTrip (h : Exact decode normal encode) (x : α) : decode (encode x) = .ok x :=
  (h.iff _ _).2 (h.stable x)

theorem injective (h : Exact decode normal encode) {x y : α} (heq : encode x = encode y) :
    x = y := by
  have hx := h.roundTrip x
  rw [heq, h.roundTrip y] at hx
  exact (Except.ok.inj hx).symm

end Exact

/-! ## Single values -/

section

variable {α : Type} {decode : Decoder α} {normal : Json → Json} {encode : α → Json}

theorem pure_eq_ok_iff {ε β : Type} {x y : β} : (pure x : Except ε β) = .ok y ↔ x = y := by
  simp [pure, Except.pure]

theorem map_eq_ok_iff {ε β γ : Type} {r : Except ε β} {f : β → γ} {y : γ} :
    r.map f = .ok y ↔ ∃ x, r = .ok x ∧ f x = y := by
  cases r with
  | ok x => simp [Except.map]
  | error e => simp [Except.map]

/-- A decoder that takes a value as it stands is exact. -/
theorem exact_of_iff (h : ∀ v x, decode v = .ok x ↔ v = encode x) : Exact decode id encode :=
  ⟨h, fun _ => rfl⟩

theorem exact_string : Exact decodeString id string := by
  apply exact_of_iff
  intro v s
  cases v
  all_goals simp [decodeString, refuse]

theorem exact_path : Exact decodePath id string := by
  apply exact_of_iff
  intro v s
  cases v
  all_goals simp [decodePath, refuse]

theorem exact_bool : Exact decodeBool id bool := by
  apply exact_of_iff
  intro v b
  cases v
  all_goals simp [decodeBool, refuse]

/-- An integer is taken within its bounds, and is not rounded to them. -/
theorem decodeInteger_eq_ok_iff {least greatest : Int} {name : String} {v : Json} {n : Int} :
    decodeInteger least greatest name v = .ok n ↔
      v = integer n ∧ least ≤ n ∧ n ≤ greatest := by
  cases v with
  | integer m =>
    simp only [decodeInteger, integer.injEq]
    split
    · rename_i hbounds
      rw [Except.ok.injEq]
      constructor
      · rintro rfl
        exact ⟨rfl, hbounds⟩
      · exact And.left
    · rename_i hbounds
      refine iff_of_false (by simp) ?_
      rintro ⟨rfl, h⟩
      exact hbounds h
  | null | bool _ | float _ | string _ | array _ | object _ => simp [decodeInteger, refuse]

theorem exact_signed32 : Exact decodeSigned32 id fun n : Int32 => integer n.toInt := by
  apply exact_of_iff
  intro v n
  have hleast : -2147483648 ≤ n.toInt := n.minValue_le_toInt
  have hgreatest : n.toInt ≤ 2147483647 := n.toInt_le
  rw [decodeSigned32, map_eq_ok_iff]
  constructor
  · rintro ⟨m, hdecode, rfl⟩
    obtain ⟨rfl, hm⟩ := decodeInteger_eq_ok_iff.1 hdecode
    rw [Int32.toInt_ofInt_of_le hm.1 (by omega)]
  · rintro rfl
    exact ⟨n.toInt, decodeInteger_eq_ok_iff.2 ⟨rfl, hleast, hgreatest⟩, Int32.ofInt_toInt n⟩

theorem exact_unsigned16 : Exact decodeUnsigned16 id fun n : UInt16 => integer n.toNat := by
  apply exact_of_iff
  intro v n
  rw [decodeUnsigned16, map_eq_ok_iff]
  constructor
  · rintro ⟨m, hdecode, rfl⟩
    obtain ⟨rfl, hm⟩ := decodeInteger_eq_ok_iff.1 hdecode
    rw [UInt16.toNat_ofNat']
    congr 1
    omega
  · rintro rfl
    have hlt := n.toNat_lt
    exact ⟨n.toNat, decodeInteger_eq_ok_iff.2 ⟨rfl, by omega, by omega⟩, by simp⟩

/-- A value or null, for values that are not written as null. -/
theorem exact_option (h : Exact decode id encode) (hnull : ∀ x, encode x ≠ null) :
    Exact (decodeOption decode) id (orNull encode) := by
  apply exact_of_iff
  intro v o
  have hvalue : ∀ x, decode v = .ok x ↔ v = encode x := h.iff v
  by_cases hv : v = null
  · -- null is no value, since no value is written as null
    subst hv
    cases o with
    | none => exact iff_of_true rfl rfl
    | some x => exact iff_of_false (by simp [decodeOption]) fun heq => hnull x heq.symm
  · have hdecode : decodeOption decode v = (decode v).map some := by
      unfold decodeOption
      split
      · exact absurd rfl hv
      · rfl
    rw [hdecode, map_eq_ok_iff]
    cases o with
    | none => exact iff_of_false (by simp) hv
    | some x => simp [hvalue, orNull]

/-! ## Lists and maps -/

/-- Decoding each element is comparing each normal form. The first element that is refused ends the
decoding, and that is no matter here: all have to be accepted. -/
theorem mapM_eq_ok_iff {β : Type} {f : Json → Except Fault β} {normal : Json → Json}
    {encode : β → Json} (h : ∀ v x, f v = .ok x ↔ normal v = encode x) {items : List Json}
    {xs : List β} : items.mapM f = .ok xs ↔ items.map normal = xs.map encode := by
  induction items generalizing xs with
  | nil =>
    rw [List.mapM_nil, List.map_nil, eq_comm (a := []), List.map_eq_nil_iff]
    exact ⟨fun hnil => (Except.ok.inj hnil).symm, fun hnil => hnil ▸ rfl⟩
  | cons v rest ih =>
    rw [List.mapM_cons, bind_eq_ok_iff, List.map_cons]
    constructor
    · rintro ⟨x, hx, hrest⟩
      obtain ⟨ys, hys, heq⟩ := bind_eq_ok_iff.1 hrest
      obtain rfl := Except.ok.inj heq
      rw [List.map_cons, (h v x).1 hx, ih.1 hys]
    · intro heq
      obtain ⟨x, ys, rfl, hx, hys⟩ := List.map_eq_cons_iff.1 heq.symm
      exact ⟨x, (h v x).2 hx.symm, bind_eq_ok_iff.2 ⟨ys, ih.2 hys.symm, rfl⟩⟩

/-- **A list is decoded exactly** if its elements are. -/
theorem exact_list (h : Exact decode normal encode) :
    Exact (decodeList decode) (normalItems normal) fun xs => array (xs.map encode) := by
  constructor
  · intro v xs
    cases v with
    | array items =>
      rw [decodeList, mapM_eq_ok_iff h.iff, normalItems, array.injEq]
    | null | bool _ | integer _ | float _ | string _ | object _ =>
      simp [decodeList, refuse, normalItems]
  · intro xs
    rw [normalItems, List.map_map]
    congr 1
    exact List.map_congr_left fun x _ => h.stable x

theorem exact_strings : Exact (decodeList decodeString) id strings := by
  have hid : normalItems id = id := by
    funext v
    cases v with
    | array items => rw [normalItems, List.map_id, id]
    | null | bool _ | integer _ | float _ | string _ | object _ => rfl
  exact hid ▸ exact_list exact_string

end

/-! ## Members by name -/

section

variable {α : Type}

/-- If no name is there twice it does not matter from which end it is looked up. A dictionary keeps
the last member of a name, as the reader of objects does, and a list is searched from its head. -/
theorem find?_members {found : List (String × Json)} (h : (found.map Prod.fst).Nodup)
    (name : String) : (members found).find? name = found.lookup name := by
  rw [members, Dictionary.find?_ofList]
  induction found with
  | nil => rfl
  | cons pair rest ih =>
    obtain ⟨key, value⟩ := pair
    rw [List.map_cons, List.nodup_cons] at h
    rw [List.reverse_cons, List.lookup_append, ih h.2, List.lookup_cons]
    by_cases hname : name = key
    · -- it is this member, and no later one
      subst hname
      have hnone : rest.lookup name = none := by
        rw [List.lookup_eq_none_iff]
        intro p hp
        rw [bne_iff_ne]
        have hmem : p.1 ∈ rest.map Prod.fst := List.mem_map_of_mem hp
        rintro rfl
        exact h.1 hmem
      simp [hnone]
    · simp [List.lookup_cons, beq_eq_false_iff_ne.2 hname]

theorem map_fst_zip_sublist {β γ : Type} (names : List β) (items : List γ) :
    ((names.zip items).map Prod.fst).Sublist names := by
  induction names generalizing items with
  | nil => exact List.Sublist.refl _
  | cons name names ih =>
    cases items with
    | nil => exact List.nil_sublist _
    | cons item items => exact (ih items).cons_cons name

/-- Under the name of a field stands the element at its position, if there is one. -/
theorem lookup_zip {names : List String} (h : names.Nodup) (items : List Json)
    {i : Nat} (hi : i < names.length) : (names.zip items).lookup names[i] = items[i]? := by
  induction names generalizing items i with
  | nil => exact absurd hi (Nat.not_lt_zero i)
  | cons name names ih =>
    rw [List.nodup_cons] at h
    cases items with
    | nil => simp
    | cons item items =>
      cases i with
      | zero => simp
      | succ i =>
        have hi' : i < names.length := Nat.lt_of_succ_lt_succ hi
        have hne : names[i] ≠ name := fun heq => h.1 (heq ▸ List.getElem_mem hi')
        rw [List.getElem_cons_succ, List.zip_cons_cons, List.lookup_cons,
          beq_eq_false_iff_ne.2 hne, List.getElem?_cons_succ]
        exact ih h.2 items hi'

end

/-! ## Records -/

section

variable {α β : Type} {decode : Decoder α} {normal : Json → Json} {encode : α → Json}

/-- A value that is there and decodes. -/
def Given (found : Option Json) (decode : Decoder α) (x : α) : Prop :=
  ∃ v, found = some v ∧ decode v = .ok x

/-- A value that decodes, or that is not there and has a default. -/
def GivenOr (found : Option Json) (decode : Decoder α) (default x : α) : Prop :=
  (found = none ∧ x = default) ∨ Given found decode x

/-- A field that is required: its slot is filled just when its value decodes. -/
theorem slot_eq_some_iff (h : Exact decode normal encode) {name : String} {found : Option Json}
    {x : α} : RecordField.slot ⟨name, none, normal⟩ found = some (encode x) ↔
      Given found decode x := by
  cases found with
  | none => simp [RecordField.slot, Given]
  | some v => simp [RecordField.slot, Given, h.iff]

/-- A field that may be absent: what is absent reads as the default, and a value that does not
decode is refused and not replaced by it. -/
theorem slot_default_eq_some_iff (h : Exact decode normal encode) {name : String}
    {found : Option Json} {default x : α} :
    RecordField.slot ⟨name, some (encode default), normal⟩ found = some (encode x) ↔
      GivenOr found decode default x := by
  cases found with
  | none =>
    have hinjective : encode default = encode x ↔ x = default :=
      ⟨fun heq => (h.injective heq).symm, fun heq => heq ▸ rfl⟩
    simp [RecordField.slot, GivenOr, Given, hinjective]
  | some v => simp [RecordField.slot, GivenOr, Given, h.iff]

/-- A path is taken from text as text is. -/
theorem givenOr_path_iff {found : Option Json} {default x : String} :
    GivenOr found decodePath default x ↔ GivenOr found decodeString default x := by
  simp only [GivenOr, Given, exact_path.iff, exact_string.iff]

/-- A field that may be null is null where it is absent. -/
theorem slot_null_eq_some_iff (h : Exact decode id encode) (hnull : ∀ x, encode x ≠ null)
    {name : String} {found : Option Json} {o : Option α} :
    RecordField.slot ⟨name, some null, id⟩ found = some (orNull encode o) ↔
      GivenOr found (decodeOption decode) none o :=
  @slot_default_eq_some_iff _ _ _ _ (exact_option h hnull) name found none o

/-- An element is there if a later one is. So of the elements of an array only the last can be left
to their defaults. -/
theorem givenOr_iff_of_later {later : Decoder β} {items : List Json} {i j : Nat} {default x : α}
    {y : β} (hij : i ≤ j) (hlater : Given items[j]? later y) :
    GivenOr items[i]? decode default x ↔ Given items[i]? decode x := by
  obtain ⟨v, hv, -⟩ := hlater
  have hlt := (List.getElem?_eq_some_iff.1 hv).1
  constructor
  · rintro (⟨hnone, -⟩ | hgiven)
    · have hle := List.getElem?_eq_none_iff.1 hnone
      omega
    · exact hgiven
  · exact Or.inr

theorem required_eq_ok_iff {name : String} {o : Option α} {x : α} :
    required name o = .ok x ↔ o = some x := by
  cases o with
  | none => simp [required]
  | some y => simp [required]

theorem field_eq_some_iff {found : Dictionary Json} {name : String} {x : α} :
    field found name decode = .ok (some x) ↔ Given (found.find? name) decode x := by
  unfold field
  cases found.find? name with
  | none => simp [Given]
  | some v => simp [Given, map_eq_ok_iff]

/-- What a decoder makes of a member that may be absent. -/
theorem exists_field_iff {found : Dictionary Json} {name : String} {default x : α} :
    (∃ o, field found name decode = .ok o ∧ o.getD default = x) ↔
      GivenOr (found.find? name) decode default x := by
  unfold field
  cases found.find? name with
  | none => simp [GivenOr, Given, eq_comm]
  | some v =>
    simp only [GivenOr, Given, map_eq_ok_iff]
    constructor
    · rintro ⟨_, ⟨y, hy, rfl⟩, rfl⟩
      exact Or.inr ⟨v, rfl, hy⟩
    · rintro (⟨hnone, -⟩ | ⟨w, hw, hx⟩)
      · cases hnone
      · obtain rfl := Option.some.inj hw
        exact ⟨some x, ⟨x, hx, rfl⟩, rfl⟩

/-- The same for elements of an array, first for those that have to be there, -/
theorem element_eq_ok_iff {items : List Json} {i : Nat} {whole : String} {x : α} :
    element items i whole decode = .ok x ↔ Given items[i]? decode x := by
  unfold element
  cases items[i]? with
  | none => simp [Given]
  | some v => simp [Given]

/-- and then for those that need not. -/
theorem elementD_eq_ok_iff {items : List Json} {i : Nat} {default x : α} :
    elementD items i default decode = .ok x ↔ GivenOr items[i]? decode default x := by
  unfold elementD
  cases items[i]? with
  | none => simp [GivenOr, Given, eq_comm]
  | some v => simp [GivenOr, Given]

theorem noneBeyond_eq_ok_iff {items : List Json} {size : Nat} {u : Unit} :
    noneBeyond items size = .ok u ↔ items.length ≤ size := by
  unfold noneBeyond
  split
  · rename_i h
    exact iff_of_true rfl h
  · rename_i h
    exact iff_of_false (by simp) h

end

/-! ## Normal forms of records -/

section

variable {fields : List RecordField}

theorem nodup_names (fields : List RecordField) (hnames : (fields.map RecordField.name).Nodup)
    (values : List Json) :
    (((fields.map RecordField.name).zip values).map Prod.fst).Nodup :=
  hnames.sublist (map_fst_zip_sublist _ values)

/-- No field of a record is missing in its normal form if the form has as many members. -/
theorem filterMap_slots_iff {slot : RecordField → Option Json} {values : List Json}
    (hlength : values.length = fields.length) :
    fields.filterMap (fun f => (slot f).map fun v => (f.name, v)) =
        (fields.map RecordField.name).zip values ↔
      fields.map slot = values.map some := by
  induction fields generalizing values with
  | nil =>
    rw [List.length_eq_zero_iff.1 hlength]
    simp
  | cons f rest ih =>
    obtain ⟨value, values, rfl⟩ := List.exists_cons_of_length_eq_add_one hlength
    have hrest : values.length = rest.length := Nat.succ.inj hlength
    cases hslot : slot f with
    | some v => simp [hslot, ih hrest]
    | none =>
      refine iff_of_false ?_ (by simp [hslot])
      rw [List.filterMap_cons, hslot]
      intro heq
      -- what is left cannot be as long
      have hshort := List.length_filterMap_le (fun f => (slot f).map fun v => (f.name, v)) rest
      have hlong := congrArg List.length heq
      simp only [Option.map_none, List.map_cons, List.zip_cons_cons, List.length_cons,
        List.length_zip, List.length_map] at hlong
      omega

/-- **The normal form of an object** has these values just when the slots hold them. -/
theorem normalRecord_object_iff {values : List Json} (hlength : values.length = fields.length)
    {found : List (String × Json)} :
    normalRecord fields (object found) = object ((fields.map RecordField.name).zip values) ↔
      fields.map (fun f => f.slot ((members found).find? f.name)) = values.map some := by
  show object (fields.filterMap _) = _ ↔ _
  rw [object.injEq]
  exact filterMap_slots_iff hlength

/-- **The normal form of an array**, by the positions of the fields. More elements than fields are
refused, where more members than fields would be ignored. -/
theorem normalRecord_array_iff {values : List Json} (hlength : values.length = fields.length)
    (hnames : (fields.map RecordField.name).Nodup) {items : List Json} :
    normalRecord fields (array items) = object ((fields.map RecordField.name).zip values) ↔
      items.length ≤ fields.length ∧
        fields.zipIdx.map (fun f => f.1.slot items[f.2]?) = values.map some := by
  by_cases hle : items.length ≤ fields.length
  · have hnamed : byName fields (array items) =
        object ((fields.map RecordField.name).zip items) := if_pos hle
    have hmembers := find?_members (nodup_names fields hnames items)
    -- looking an element up by the name that was given to it is taking it by its position
    have hslots : fields.map (fun f => f.slot ((members
          ((fields.map RecordField.name).zip items)).find? f.name)) =
        fields.zipIdx.map fun f => f.1.slot items[f.2]? := by
      apply List.ext_getElem
      · simp
      · intro i hi _
        have hi' : i < (fields.map RecordField.name).length := by simpa using hi
        have hlookup := lookup_zip hnames items hi'
        simp only [List.getElem_map] at hlookup
        simp [hmembers, hlookup]
    rw [normalRecord, hnamed]
    dsimp only
    rw [object.injEq, filterMap_slots_iff hlength, hslots, and_iff_right hle]
  · have hleft : byName fields (array items) = array items := if_neg hle
    rw [normalRecord, hleft]
    simp [hle]

/-- The normal form of a record with all of its fields. -/
theorem normalRecord_named {values : List Json} (hlength : values.length = fields.length)
    (hnames : (fields.map RecordField.name).Nodup) :
    normalRecord fields (object ((fields.map RecordField.name).zip values)) =
      object ((fields.map RecordField.name).zip
        (List.zipWith RecordField.normal fields values)) := by
  have hnodup := nodup_names fields hnames values
  rw [normalRecord_object_iff (by simp [hlength])]
  apply List.ext_getElem
  · simp [hlength]
  · intro i hi _
    rw [List.length_map] at hi
    have hlookup := lookup_zip hnames values (i := i) (by rwa [List.length_map])
    rw [List.getElem_map] at hlookup
    rw [List.getElem_map, find?_members hnodup, hlookup, List.getElem?_eq_getElem (by omega),
      RecordField.slot, Option.map_some, List.getElem_map, List.getElem_zipWith]
    rfl

/-- The values of a record alone, in the order of its fields. -/
def positional : Json → Json
  | object found => array (found.map Prod.snd)
  | value => value

/-- **A record as it may be written**: by the names of its fields or by their positions. -/
def IsRecordForm (named v : Json) : Prop := v = named ∨ v = named.positional

/-- Both ways of writing a record have one normal form. -/
theorem normalRecord_of_isRecordForm (fields : List RecordField) (values : List Json) {v : Json}
    (hlength : values.length = fields.length) (hnames : (fields.map RecordField.name).Nodup)
    (h : IsRecordForm (object ((fields.map RecordField.name).zip values)) v) :
    normalRecord fields v =
      object ((fields.map RecordField.name).zip
        (List.zipWith RecordField.normal fields values)) := by
  rw [← normalRecord_named hlength hnames]
  rcases h with rfl | rfl
  · rfl
  · have hvalues : ((fields.map RecordField.name).zip values).map Prod.snd = values := by
      rw [List.map_snd_zip]
      simp [hlength]
    have hnamed : byName fields (array values) =
        object ((fields.map RecordField.name).zip values) := if_pos (Nat.le_of_eq hlength)
    rw [positional, hvalues, normalRecord, hnamed]
    rfl

/-- **A decoder of records is exact** if it finds in an object and in an array what the normal
form does. It must not take anything else for a record, and the values that it is written with must
be in their own normal form. -/
theorem exact_record {α : Type} {decode : Decoder α} (values : α → List Json)
    (hnames : (fields.map RecordField.name).Nodup)
    (hlength : ∀ x, (values x).length = fields.length)
    (hobject : ∀ found x, decode (object found) = .ok x ↔
      fields.map (fun f => f.slot ((members found).find? f.name)) = (values x).map some)
    (harray : ∀ items x, decode (array items) = .ok x ↔ items.length ≤ fields.length ∧
      fields.zipIdx.map (fun f => f.1.slot items[f.2]?) = (values x).map some)
    (hother : ∀ v x, decode v = .ok x → (∃ found, v = object found) ∨ ∃ items, v = array items)
    (hstable : ∀ x, List.zipWith RecordField.normal fields (values x) = values x) :
    Exact decode (normalRecord fields) fun x =>
      object ((fields.map RecordField.name).zip (values x)) := by
  constructor
  · intro v x
    cases v with
    | object found => rw [hobject, normalRecord_object_iff (hlength x)]
    | array items => rw [harray, normalRecord_array_iff (hlength x) hnames]
    | null | bool _ | integer _ | float _ | string _ =>
      refine iff_of_false ?_ (by simp [normalRecord, byName])
      intro hdecode
      rcases hother _ _ hdecode with ⟨_, h⟩ | ⟨_, h⟩
      all_goals cases h
  · intro x
    rw [normalRecord_named (hlength x) hnames, hstable]

end

/-! ## Records without some of their fields -/

/-- A record from which fields are taken out. Names that it does not have may be among them. -/
def without (removed : List String) : Json → Json
  | object found => object (found.filter fun f => f.1 ∉ removed)
  | value => value

/-- What is taken out is not found, and everything else as before. -/
theorem find?_members_without {found : List (String × Json)} (h : (found.map Prod.fst).Nodup)
    (removed : List String) (name : String) :
    (members (found.filter fun f => f.1 ∉ removed)).find? name =
      if name ∈ removed then none else found.lookup name := by
  rw [find?_members (h.sublist (List.filter_sublist.map Prod.fst))]
  induction found with
  | nil => simp
  | cons pair rest ih =>
    obtain ⟨key, value⟩ := pair
    rw [List.map_cons, List.nodup_cons] at h
    have hrest := ih h.2
    by_cases hkey : key ∈ removed
    · rw [List.filter_cons_of_neg (by simpa using hkey), hrest]
      split
      · rfl
      · rename_i hname
        have hne : name ≠ key := fun heq => hname (heq ▸ hkey)
        rw [List.lookup_cons, beq_eq_false_iff_ne.2 hne]
    · rw [List.filter_cons_of_pos (by simpa using hkey), List.lookup_cons, List.lookup_cons]
      by_cases hname : name = key
      · rw [hname, beq_self_eq_true, if_neg hkey]
      · rw [beq_eq_false_iff_ne.2 hname]
        exact hrest

section

variable {α : Type} {decode : Decoder α} {normal : Json → Json} {encode : α → Json}
  {found : List (String × Json)} {name : String} {x : α}

theorem given_without (h : Exact decode normal encode) (hnames : (found.map Prod.fst).Nodup)
    {removed : List String} (hkept : name ∉ removed)
    (hfound : found.lookup name = some (encode x)) :
    Given ((members (found.filter fun f => f.1 ∉ removed)).find? name) decode x := by
  rw [find?_members_without hnames, if_neg hkept, hfound]
  exact ⟨_, rfl, h.roundTrip x⟩

/-- A field that may be absent is its default if it was taken out, and itself if not. -/
theorem givenOr_without (h : Exact decode normal encode) (hnames : (found.map Prod.fst).Nodup)
    (removed : List String) (hfound : found.lookup name = some (encode x)) (default : α) :
    GivenOr ((members (found.filter fun f => f.1 ∉ removed)).find? name) decode default
      (if name ∈ removed then default else x) := by
  rw [find?_members_without hnames]
  split
  · exact Or.inl ⟨rfl, rfl⟩
  · exact Or.inr ⟨_, hfound, h.roundTrip x⟩

end

end CatalogEntities.Json
