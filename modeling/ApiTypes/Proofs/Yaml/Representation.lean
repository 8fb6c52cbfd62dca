import ApiTypes.Proofs.Json.Tree
import ApiTypes.Proofs.List
import ApiTypes.Yaml.Value

/-!
YAML values that represent a JSON value.

A YAML value may say the same as a JSON value in more than one way: any node may have tags around
it, and the key of an entry may be a number, a truth value or nothing instead of a string. As long
as the tree, the order of the entries and the texts of the keys are the same, the JSON form of the
YAML value is the JSON value. Keys that become equal are one entry, so it matters that no object of
the JSON value has a key twice.

An integer is stored without a sign or, below zero, with one. It is first looked at as one with a
sign and then as one without, so every integer that can be stored stays an integer.
-/

namespace ApiTypes.Yaml

namespace Number

/-! ### Integers of 64 bits -/

/-- The integer that a number is. -/
inductive IsInt : Number → Int → Prop where
  | natural (value : UInt64) : IsInt (.natural value) value.toNat
  | negative (value : Int64) (h : value < 0) : IsInt (.negative value h) value.toInt

/-- An integer that has a place among those of 64 bits, with a sign or without. -/
def InRange (i : Int) : Prop := -9223372036854775808 ≤ i ∧ i ≤ 18446744073709551615

variable {number : Number} {i : Int}

lemma IsInt.inRange (h : number.IsInt i) : InRange i := by
  cases h with
  | natural value =>
    have hvalue : value.toNat < 18446744073709551616 := value.toNat_lt
    constructor <;> omega
  | negative value hneg =>
    have hlow : -9223372036854775808 ≤ value.toInt := value.le_toInt
    have hhigh : value.toInt < 0 := Int64.lt_iff_toInt_lt.mp hneg
    constructor <;> omega

lemma ofInt?_eq (i : Int) :
    ofInt? i =
      if 0 ≤ i then
        if i < 18446744073709551616 then some (.natural (UInt64.ofNat i.toNat)) else none
      else if -9223372036854775808 ≤ i then some (ofInt64 (Int64.ofInt i))
      else none :=
  rfl

/-- What is stored for an integer is that integer. -/
lemma isInt_of_ofInt? (h : ofInt? i = some number) : number.IsInt i := by
  have hsize : UInt64.size = 18446744073709551616 := rfl
  rw [ofInt?_eq] at h
  split_ifs at h with hi hlt hlow
  · cases h
    have hvalue : ((UInt64.ofNat i.toNat).toNat : Int) = i := by
      rw [UInt64.toNat_ofNat_of_lt' (by omega), Int.toNat_of_nonneg hi]
    have hint := IsInt.natural (UInt64.ofNat i.toNat)
    rwa [hvalue] at hint
  · cases h
    have hvalue : (Int64.ofInt i).toInt = i := Int64.toInt_ofInt_of_le hlow (by omega)
    have hneg : Int64.ofInt i < 0 := by
      rw [Int64.lt_iff_toInt_lt, hvalue]
      exact Int.not_le.mp hi
    have hint := IsInt.negative (Int64.ofInt i) hneg
    rw [hvalue] at hint
    rwa [ofInt64, dif_pos hneg]

/-- Every integer in the range is stored. -/
lemma exists_isInt (h : InRange i) : ∃ number : Number, number.IsInt i := by
  obtain ⟨number, hnumber⟩ : ∃ number, ofInt? i = some number := by
    rw [ofInt?_eq]
    split_ifs with hi hlt hlow
    · exact ⟨_, rfl⟩
    · exact absurd h.2 (by omega)
    · exact ⟨_, rfl⟩
    · exact absurd h.1 hlow
  exact ⟨number, isInt_of_ofInt? hnumber⟩

lemma toInt_toInt64 {value : UInt64} (h : value ≤ Int64.maxValue.toUInt64) :
    value.toInt64.toInt = value.toNat := by
  have hlt : value.toNat < 9223372036854775808 :=
    Nat.lt_succ_of_le (UInt64.le_iff_toNat_le.mp h)
  calc value.toInt64.toInt
    _ = (UInt64.ofNat value.toNat).toInt64.toInt := by rw [UInt64.ofNat_toNat]
    _ = (Int64.ofNat value.toNat).toInt := by rw [UInt64.toInt64_ofNat']
    _ = value.toNat := Int64.toInt_ofNat_of_lt hlt

/-- An integer stays one, by whichever view it is found. -/
lemma IsInt.toJson_eq (h : number.IsInt i) : number.toJson = .number (.int i) := by
  cases h with
  | natural value =>
    rw [toJson, toInt64?]
    by_cases hle : value ≤ Int64.maxValue.toUInt64
    · rw [if_pos hle]
      exact congrArg (fun i => Json.number (.int i)) (toInt_toInt64 hle)
    · -- too large for a sign
      rw [if_neg hle]
      rfl
  | negative value hneg => rfl

end Number

/-! ### Values of both kinds -/

/-- A key without a tag stands for its text. -/
inductive KeyOf : Value → String → Prop where
  | string (text : String) : KeyOf (.string text) text
  | null : KeyOf .null "null"
  | bool (b : Bool) : KeyOf (.bool b) (toString b)
  | number (n : Number) : KeyOf (.number n) n.keyText

/-- The same tree, with tags around any nodes and keys that stand for their texts. -/
inductive Represents : Value → Json → Prop where
  | null : Represents .null .null
  | bool (b : Bool) : Represents (.bool b) (.bool b)
  | int {number : Number} {i : Int} : number.IsInt i →
      Represents (.number number) (.number (.int i))
  | real (x : Double) : Represents (.number (.floating (.finite x))) (.number (.real x))
  | string (text : String) : Represents (.string text) (.string text)
  | sequence {items : List Value} {values : List Json} :
      items.length = values.length →
      (∀ (i : Nat) item value, items[i]? = some item → values[i]? = some value →
        Represents item value) →
      Represents (.sequence items) (.array values)
  | mapping {entries : List (Value × Value)} {members : List (String × Json)} :
      List.Forall₂ KeyOf (entries.map Prod.fst) (members.map Prod.fst) →
      (∀ (i : Nat) entry member, entries[i]? = some entry → members[i]? = some member →
        Represents entry.2 member.2) →
      Represents (.mapping entries) (.object members)
  | tagged {value : Value} {json : Json} (tag : List UInt8) :
      Represents value json → Represents (.tagged tag value) json

lemma represents_sequence {items : List Value} {values : List Json}
    (h : List.Forall₂ Represents items values) : Represents (.sequence items) (.array values) :=
  .sequence h.length_eq (List.forall₂_iff_getElem?.mp h).2

lemma represents_mapping {entries : List (Value × Value)} {members : List (String × Json)}
    (hkeys : List.Forall₂ KeyOf (entries.map Prod.fst) (members.map Prod.fst))
    (hvalues : List.Forall₂ Represents (entries.map Prod.snd) (members.map Prod.snd)) :
    Represents (.mapping entries) (.object members) := by
  refine .mapping hkeys fun i entry member hentry hmember => ?_
  exact (List.forall₂_iff_getElem?.mp hvalues).2 i _ _ (by rw [List.getElem?_map, hentry]; rfl)
    (by rw [List.getElem?_map, hmember]; rfl)

namespace Value

lemma itemsToJson_eq (items : List Value) : itemsToJson items = items.map toJson := by
  induction items with
  | nil => rfl
  | cons item rest ih => rw [itemsToJson, ih, List.map_cons]

lemma entriesToJson_eq (entries : List (Value × Value)) :
    entriesToJson entries = entries.map fun entry => (keyText entry.1, toJson entry.2) := by
  induction entries with
  | nil => rfl
  | cons entry rest ih => rw [entriesToJson, ih, List.map_cons]

end Value

lemma KeyOf.keyText_eq {key : Value} {text : String} (h : KeyOf key text) : key.keyText = text := by
  cases h with
  | bool b => cases b <;> rfl
  | _ => rfl

/-- Entries with the same keys and, place by place, the same values. -/
lemma entriesToJson_eq_members {entries : List (Value × Value)} {members : List (String × Json)}
    (hkeys : List.Forall₂ KeyOf (entries.map Prod.fst) (members.map Prod.fst))
    (hvalues : ∀ (i : Nat) entry member, entries[i]? = some entry → members[i]? = some member →
      entry.2.toJson = member.2) :
    Value.entriesToJson entries = members := by
  obtain ⟨hlength, hkeys⟩ := List.forall₂_iff_getElem?.mp hkeys
  rw [Value.entriesToJson_eq]
  refine List.Forall₂.map_eq (List.forall₂_iff_getElem?.mpr ⟨by simpa using hlength, ?_⟩)
  intro i entry member hentry hmember
  have hkey : KeyOf entry.1 member.1 :=
    hkeys i _ _ (by rw [List.getElem?_map, hentry]; rfl) (by rw [List.getElem?_map, hmember]; rfl)
  exact Prod.ext hkey.keyText_eq (hvalues i entry member hentry hmember)

lemma Represents.toJson_eq {value : Value} {json : Json} (h : Represents value json)
    (hd : json.Distinct) : value.toJson = json := by
  induction h with
  | null => rfl
  | bool b => rfl
  | int h => exact h.toJson_eq
  | real x => rfl
  | string text => rfl
  | @sequence items values hlength _ ih =>
    have hitems : items.map Value.toJson = values :=
      List.Forall₂.map_eq (List.forall₂_iff_getElem?.mpr ⟨hlength, fun i item value hitem hvalue =>
        ih i item value hitem hvalue
          (Json.everyObject_array_iff.mp hd value (List.mem_of_getElem? hvalue))⟩)
    rw [Value.toJson, Value.itemsToJson_eq, hitems]
  | @mapping entries members hkeys _ ih =>
    obtain ⟨hnodup, hparts⟩ := Json.everyObject_object_iff.mp hd
    have hentries : Value.entriesToJson entries = members :=
      entriesToJson_eq_members hkeys fun i entry member hentry hmember =>
        ih i entry member hentry hmember (hparts member (List.mem_of_getElem? hmember))
    rw [Value.toJson, hentries, Keyed.gather_of_nodup hnodup]
  | tagged tag _ ih => exact ih hd

/-! ### Values that are represented -/

mutual

/-- Every integer in the value, at any depth, is in the range. -/
def IntegersInRange : Json → Prop
  | .number (.int i) => Number.InRange i
  | .array items => ItemsInRange items
  | .object entries => EntriesInRange entries
  | _ => True

def ItemsInRange : List Json → Prop
  | [] => True
  | item :: rest => IntegersInRange item ∧ ItemsInRange rest

def EntriesInRange : List (String × Json) → Prop
  | [] => True
  | (_, value) :: rest => IntegersInRange value ∧ EntriesInRange rest

end

lemma itemsInRange_iff {items : List Json} :
    ItemsInRange items ↔ ∀ item ∈ items, IntegersInRange item := by
  induction items with
  | nil => simp [ItemsInRange]
  | cons item rest ih => simp [ItemsInRange, ih]

lemma entriesInRange_iff {entries : List (String × Json)} :
    EntriesInRange entries ↔ ∀ entry ∈ entries, IntegersInRange entry.2 := by
  induction entries with
  | nil => simp [EntriesInRange]
  | cons entry rest ih => simp [EntriesInRange, ih]

lemma Represents.integersInRange {value : Value} {json : Json} (h : Represents value json) :
    IntegersInRange json := by
  induction h with
  | int h => exact h.inRange
  | @sequence items values hlength _ ih =>
    refine itemsInRange_iff.mpr fun value hvalue => ?_
    obtain ⟨i, hi⟩ := List.mem_iff_getElem?.mp hvalue
    obtain ⟨item, hitem⟩ := List.exists_getElem?_of_length_eq hlength.symm hi
    exact ih i item value hitem hi
  | @mapping entries members hkeys _ ih =>
    have hlength : members.length = entries.length := by simpa using hkeys.length_eq.symm
    refine entriesInRange_iff.mpr fun member hmember => ?_
    obtain ⟨i, hi⟩ := List.mem_iff_getElem?.mp hmember
    obtain ⟨entry, hentry⟩ := List.exists_getElem?_of_length_eq hlength hi
    exact ih i entry member hentry hi
  | tagged _ _ ih => exact ih
  | _ => trivial

lemma exists_represents {json : Json} (h : IntegersInRange json) :
    ∃ value, Represents value json := by
  induction json using Json.induction with
  | null => exact ⟨_, .null⟩
  | bool b => exact ⟨_, .bool b⟩
  | number n =>
    cases n with
    | int i =>
      obtain ⟨number, hnumber⟩ := Number.exists_isInt h
      exact ⟨_, .int hnumber⟩
    | real x => exact ⟨_, .real x⟩
  | string text => exact ⟨_, .string text⟩
  | array items ih =>
    obtain ⟨values, hvalues⟩ := List.exists_forall₂_iff.mpr fun item hitem =>
      ih item hitem (itemsInRange_iff.mp h item hitem)
    exact ⟨_, represents_sequence hvalues.flip⟩
  | object members ih =>
    have hentry : ∀ member ∈ members, ∃ entry : Value × Value,
        KeyOf entry.1 member.1 ∧ Represents entry.2 member.2 := by
      intro member hmember
      obtain ⟨value, hvalue⟩ := ih member hmember (entriesInRange_iff.mp h member hmember)
      exact ⟨(.string member.1, value), .string member.1, hvalue⟩
    obtain ⟨entries, hentries⟩ := List.exists_forall₂_iff.mpr hentry
    refine ⟨.mapping entries, represents_mapping ?_ ?_⟩
    · rw [List.forall₂_map_left_iff, List.forall₂_map_right_iff]
      exact (hentries.imp fun _ _ hentry => hentry.1).flip
    · rw [List.forall₂_map_left_iff, List.forall₂_map_right_iff]
      exact (hentries.imp fun _ _ hentry => hentry.2).flip

/-- **What represents a JSON value becomes it.** A JSON value is represented by some YAML value just
if its integers are those of 64 bits, from the least with a sign to the greatest without. Where no
object has a key twice, the JSON form of any value that represents it is the JSON value itself. -/
theorem toJson_of_represents (json : Json) (hd : json.Distinct) :
    ((∃ value, Represents value json) ↔ IntegersInRange json) ∧
      ∀ value, Represents value json → value.toJson = json :=
  ⟨⟨fun ⟨_, h⟩ => h.integersInRange, exists_represents⟩, fun _ h => h.toJson_eq hd⟩

/-- The least integer, the greatest one, and the two around the greatest with a sign, under a status
code that is a number. -/
def codeValue : Value :=
  .tagged [33] (.mapping
    [(.number (.natural 200), .sequence
        [.number (.negative (-9223372036854775808) (by decide)),
          .number (.natural 9223372036854775807), .number (.natural 9223372036854775808),
          .tagged [33, 120] (.number (.natural 18446744073709551615))]),
      (.null, .mapping [(.bool true, .null)]),
      (.number (.floating (.infinite true)), .tagged [33] (.tagged [33] (.string "200")))])

def codeJson : Json :=
  .object [("200", .array [.number (.int (-9223372036854775808)),
      .number (.int 9223372036854775807), .number (.int 9223372036854775808),
      .number (.int 18446744073709551615)]),
    ("null", .object [("true", .null)]), ("-.inf", .string "200")]

lemma represents_codeValue : Represents codeValue codeJson := by
  have hcodes : List.Forall₂ Represents
      [.number (.negative (-9223372036854775808) (by decide)),
        .number (.natural 9223372036854775807), .number (.natural 9223372036854775808),
        .tagged [33, 120] (.number (.natural 18446744073709551615))]
      [.number (.int (-9223372036854775808)), .number (.int 9223372036854775807),
        .number (.int 9223372036854775808), .number (.int 18446744073709551615)] :=
    .cons (.int (.negative _ _)) (.cons (.int (.natural _)) (.cons (.int (.natural _))
      (.cons (.tagged _ (.int (.natural _))) .nil)))
  have hflags : Represents (.mapping [(.bool true, .null)]) (.object [("true", .null)]) :=
    represents_mapping (.cons (.bool true) .nil) (.cons .null .nil)
  have htext : Represents (.tagged [33] (.tagged [33] (.string "200"))) (.string "200") :=
    .tagged _ (.tagged _ (.string _))
  refine .tagged _ (represents_mapping ?_
    (.cons (represents_sequence hcodes) (.cons hflags (.cons htext .nil))))
  exact .cons (.number (.natural 200))
    (.cons .null (.cons (.number (.floating (.infinite true))) .nil))

theorem toJson_codeValue :
    codeJson.Distinct ∧ IntegersInRange codeJson ∧ Represents codeValue codeJson ∧
      codeValue.toJson = codeJson := by
  have hd : codeJson.Distinct := by
    simp [codeJson, Json.Distinct, Json.EveryObject, Json.EveryObjectOfItems,
      Json.EveryObjectOfEntries]
  obtain ⟨hrange, hvalue⟩ := toJson_of_represents codeJson hd
  exact ⟨hd, hrange.mp ⟨_, represents_codeValue⟩, represents_codeValue,
    hvalue _ represents_codeValue⟩

end ApiTypes.Yaml
