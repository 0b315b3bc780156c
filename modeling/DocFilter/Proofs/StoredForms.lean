import DocFilter.Proofs.InnerPaths
import DocFilter.Proofs.LowerCasing

set_option autoImplicit false

namespace DocFilter

namespace Value

def isArray : Value → Bool
  | array _ => true
  | _ => false

/-- The items of an array, none for any other value. -/
def items : Value → List Value
  | array items => items
  | _ => []

/-- What a value holds at a row of positions, walked through arrays only. -/
def node? (value : Value) : List Nat → Option Value
  | [] => some value
  | position :: rest => value.items[position]?.bind fun item => item.node? rest

theorem node?_cons (value : Value) (position : Nat) (rest : List Nat) :
    value.node? (position :: rest) =
      value.items[position]?.bind fun item => item.node? rest := rfl

theorem noArray_or_array (value : Value) :
    value.isArray = false ∨ ∃ items, value = array items := by
  cases value <;> simp [isArray]

theorem map_map_of_twice {encode : Value → Value}
    (twice : ∀ value, encode (encode value) = encode value) (items : List Value) :
    (items.map encode).map encode = items.map encode := by
  rw [List.map_map]
  apply List.map_congr_left
  intro value _
  exact twice value

theorem items_of_noArray {value : Value} (noArray : value.isArray = false) : value.items = [] := by
  cases value with
  | array items => cases noArray
  | _ => rfl

theorem node?_cons_of_item {items : List Value} {position : Nat} {item : Value}
    (stands : items[position]? = some item) (rest : List Nat) :
    (array items).node? (position :: rest) = item.node? rest := by
  rw [node?_cons, Value.items, stands, Option.bind_some]

theorem node?_cons_of_noArray {value : Value} (noArray : value.isArray = false) (position : Nat)
    (rest : List Nat) : value.node? (position :: rest) = none := by
  rw [node?_cons, items_of_noArray noArray, List.getElem?_nil, Option.bind_none]

/-- The result is the value with its nodes encoded: those that are no arrays, and all that stand
inside as many arrays as the depth says. The arrays around them keep their lengths. -/
structure NodesEncoded (depth : Nat) (encode : Value → Value) (value result : Value) : Prop where
  nodes : ∀ positions node, value.node? positions = some node → positions.length ≤ depth →
    (node.isArray = false ∨ positions.length = depth) →
    result.node? positions = some (encode node)
  arrays : ∀ positions items, value.node? positions = some (array items) →
    positions.length < depth →
    ∃ encoded, result.node? positions = some (array encoded) ∧ encoded.length = items.length

/-- The result has the positions of the value, with the same mappings and, from the depth on, with
the same arrays and all that they hold. -/
structure RestUnchanged (depth : Nat) (value result : Value) : Prop where
  positions : ∀ positions, result.node? positions = none ↔ value.node? positions = none
  mappings : ∀ positions entries, value.node? positions = some (mapping entries) →
    result.node? positions = some (mapping entries)
  arrays : ∀ positions items, depth ≤ positions.length →
    value.node? positions = some (array items) → result.node? positions = some (array items)
  deeper : ∀ positions, depth < positions.length →
    result.node? positions = value.node? positions

theorem NodesEncoded.inside {depth position : Nat} {encode : Value → Value}
    {items others : List Value} {item other : Value}
    (encoded : NodesEncoded (depth + 1) encode (array items) (array others))
    (stands : items[position]? = some item) (standsOther : others[position]? = some other) :
    NodesEncoded depth encode item other := by
  constructor
  · intro positions node found within reached
    rw [← node?_cons_of_item standsOther]
    apply encoded.nodes (position :: positions) node
    · rw [node?_cons_of_item stands, found]
    · rwa [List.length_cons, Nat.add_le_add_iff_right]
    · rwa [List.length_cons, Nat.add_right_cancel_iff]
  · intro positions inner found within
    rw [← node?_cons_of_item standsOther]
    apply encoded.arrays (position :: positions) inner
    · rw [node?_cons_of_item stands, found]
    · rwa [List.length_cons, Nat.add_lt_add_iff_right]

end Value

theorem lowerText_lowerText (text : String) : lowerText (lowerText text) = lowerText text := by
  rw [lowerText, lowerText, String.toList_ofList, Text.lowerCase_lowerCase]

namespace ScalarType

theorem isArray_encode (type : ScalarType) (value : Value) :
    (type.encode value).isArray = value.isArray := by
  unfold encode
  split
  · split <;> rfl
  · split <;> rfl
  · split <;> rfl
  · rfl
  · split <;> rfl
  · rfl
  · rfl
  · rfl
  · rfl

theorem encode_array (type : ScalarType) (items : List Value) :
    type.encode (.array items) = .array items := by
  cases type <;> rfl

theorem encode_of_mapping (type : ScalarType) (entries : List (String × Value)) :
    type.encode (.mapping entries) = .mapping entries := by
  cases type <;> rfl

theorem encode_encode (type : ScalarType) (value : Value) :
    type.encode (type.encode value) = type.encode value := by
  -- A text that has been read is a text no longer; one that has not stays, and is not read again.
  cases type with
  | any => rfl
  | string => cases value <;> rfl
  | datetime => cases value <;> rfl
  | int =>
      cases value with
      | string text =>
          cases read : integerOfText? (Text.trim text.toList) with
          | none => simp only [encode, read]
          | some number => simp only [encode, read]
      | _ => rfl
  | float =>
      cases value with
      | string text =>
          cases read : floatOfText? (Text.trim text.toList) with
          | none => simp only [encode, read]
          | some number => simp only [encode, read]
      | _ => rfl
  | bool =>
      cases value with
      | string text =>
          cases read : truthOfText? text.toList with
          | none => simp only [encode, read]
          | some truth => simp only [encode, read]
      | _ => rfl
  | objectId =>
      cases value with
      | string text =>
          cases identifies : isObjectId text.toList with
          | true => simp [encode, identifies]
          | false => simp [encode, identifies]
      | _ => rfl
  | uuid =>
      cases value with
      | string text => exact congrArg Value.string (lowerText_lowerText text)
      | _ => rfl

end ScalarType

namespace Kind

theorem encode_list_of_noArray {value : Value} (noArray : value.isArray = false) (item : Kind) :
    (list item).encode value = item.encode value := by
  cases value with
  | array items => cases noArray
  | _ => rfl

theorem isArray_encode (kind : Kind) (value : Value) :
    (kind.encode value).isArray = value.isArray := by
  induction kind with
  | scalar type => exact type.isArray_encode value
  | embedded document => rfl
  | list item ih =>
      rcases value.noArray_or_array with noArray | ⟨items, rfl⟩
      · rw [encode_list_of_noArray noArray, ih]
      · rfl

theorem encode_encode (kind : Kind) (value : Value) :
    kind.encode (kind.encode value) = kind.encode value := by
  induction kind generalizing value with
  | scalar type => exact type.encode_encode value
  | embedded document => rfl
  | list item ih =>
      rcases value.noArray_or_array with noArray | ⟨items, rfl⟩
      · -- What is no array does not become one, so the second pass takes the same branch.
        have still : (item.encode value).isArray = false := by rw [isArray_encode, noArray]
        rw [encode_list_of_noArray noArray, encode_list_of_noArray still, ih]
      · rw [encode, encode, Value.map_map_of_twice ih]

theorem encode_of_mapping (kind : Kind) (entries : List (String × Value)) :
    kind.encode (.mapping entries) = .mapping entries := by
  induction kind with
  | scalar type => exact type.encode_of_mapping entries
  | embedded document => rfl
  | list item ih => exact ih

theorem encode_array_of_noList {base : Kind} (noList : ∀ item, base ≠ .list item)
    (items : List Value) : base.encode (.array items) = .array items := by
  cases base with
  | scalar type => exact type.encode_array items
  | embedded document => rfl
  | list item => exact absurd rfl (noList item)

theorem encode_listed_array (base : Kind) (depth : Nat) (items : List Value) :
    (base.listed (depth + 1)).encode (.array items) =
      .array (items.map (base.listed depth).encode) := rfl

theorem encode_listed_of_noArray {value : Value} (noArray : value.isArray = false) (base : Kind)
    (depth : Nat) : (base.listed depth).encode value = base.encode value := by
  induction depth with
  | zero => rfl
  | succ depth ih => rw [listed, encode_list_of_noArray noArray, ih]

theorem node?_cons_encode_of_noArray {value : Value} (noArray : value.isArray = false)
    (kind : Kind) (position : Nat) (rest : List Nat) :
    (kind.encode value).node? (position :: rest) = none := by
  apply Value.node?_cons_of_noArray
  rw [isArray_encode, noArray]

/-- A node inside some of the lists is encoded as the lists that are left say. -/
theorem node?_encode_listed (base : Kind) {depth : Nat} {positions : List Nat}
    (within : positions.length ≤ depth) (value : Value) :
    ((base.listed depth).encode value).node? positions =
      (value.node? positions).map (base.listed (depth - positions.length)).encode := by
  induction positions generalizing depth value with
  | nil => rfl
  | cons position rest ih =>
      rw [List.length_cons] at within ⊢
      cases depth with
      | zero => exact absurd within (Nat.not_succ_le_zero _)
      | succ depth =>
          rcases value.noArray_or_array with noArray | ⟨items, rfl⟩
          · rw [node?_cons_encode_of_noArray noArray, Value.node?_cons_of_noArray noArray,
              Option.map_none]
          · rw [encode_listed_array, Value.node?_cons, Value.node?_cons, Value.items, Value.items,
              List.getElem?_map, Nat.add_sub_add_right]
            cases items[position]? with
            | none => rfl
            | some item => exact ih (Nat.le_of_succ_le_succ within) item

theorem node?_encode_listed_deeper {base : Kind} (noList : ∀ item, base ≠ .list item) {depth : Nat}
    {positions : List Nat} (deeper : depth < positions.length) (value : Value) :
    ((base.listed depth).encode value).node? positions = value.node? positions := by
  induction positions generalizing depth value with
  | nil => exact absurd deeper (Nat.not_lt_zero depth)
  | cons position rest ih =>
      rcases value.noArray_or_array with noArray | ⟨items, rfl⟩
      · rw [node?_cons_encode_of_noArray noArray, Value.node?_cons_of_noArray noArray]
      · cases depth with
        | zero => rw [listed, encode_array_of_noList noList]
        | succ depth =>
            rw [encode_listed_array, Value.node?_cons, Value.node?_cons, Value.items, Value.items,
              List.getElem?_map]
            cases items[position]? with
            | none => rfl
            | some item => exact ih (Nat.lt_of_succ_lt_succ deeper) item

theorem nodesEncoded_encode (base : Kind) (depth : Nat) (value : Value) :
    value.NodesEncoded depth base.encode ((base.listed depth).encode value) := by
  constructor
  · intro positions node found within reached
    rw [node?_encode_listed base within, found, Option.map_some, Option.some.injEq]
    rcases reached with noArray | bottom
    · exact encode_listed_of_noArray noArray base _
    · rw [bottom, Nat.sub_self, listed]
  · intro positions items found above
    obtain ⟨left, rest⟩ := Nat.exists_eq_add_one_of_ne_zero (Nat.sub_ne_zero_of_lt above)
    rw [node?_encode_listed base (Nat.le_of_lt above), found, Option.map_some, rest,
      encode_listed_array]
    exact ⟨_, rfl, List.length_map _⟩

/-- The nodes decide the whole value, for the arrays around them are known by their items. -/
theorem eq_encode_of_nodesEncoded {base : Kind} {depth : Nat} {value result : Value}
    (encoded : value.NodesEncoded depth base.encode result) :
    result = (base.listed depth).encode value := by
  induction depth generalizing value result with
  | zero => exact Option.some.inj (encoded.nodes [] value rfl (Nat.le_refl 0) (Or.inr rfl))
  | succ depth ih =>
      rcases value.noArray_or_array with noArray | ⟨items, rfl⟩
      · have whole := encoded.nodes [] value rfl (Nat.zero_le _) (Or.inl noArray)
        rw [encode_listed_of_noArray noArray]
        exact Option.some.inj whole
      · obtain ⟨others, whole, sameLength⟩ := encoded.arrays [] items rfl (Nat.succ_pos depth)
        cases whole
        rw [encode_listed_array, Value.array.injEq]
        apply List.ext_getElem
        · rw [sameLength, List.length_map]
        · intro position inOthers inItems
          rw [List.length_map] at inItems
          have standsOther := List.getElem?_eq_getElem inOthers
          have stands := List.getElem?_eq_getElem inItems
          rw [List.getElem_map]
          exact ih (encoded.inside stands standsOther)

theorem restUnchanged_encode {base : Kind} (noList : ∀ item, base ≠ .list item) (depth : Nat)
    (value : Value) : value.RestUnchanged depth ((base.listed depth).encode value) := by
  have deeper : ∀ positions : List Nat, depth < positions.length →
      ((base.listed depth).encode value).node? positions = value.node? positions := by
    intro positions below
    exact node?_encode_listed_deeper noList below value
  constructor
  · intro positions
    rcases Nat.lt_or_ge depth positions.length with below | within
    · rw [deeper positions below]
    · rw [node?_encode_listed base within, Option.map_eq_none_iff]
  · intro positions entries found
    rcases Nat.lt_or_ge depth positions.length with below | within
    · rw [deeper positions below, found]
    · rw [node?_encode_listed base within, found, Option.map_some, encode_of_mapping]
  · intro positions items reached found
    rcases Nat.lt_or_eq_of_le reached with below | bottom
    · rw [deeper positions below, found]
    · rw [node?_encode_listed base (Nat.le_of_eq bottom.symm), found, Option.map_some, bottom,
        Nat.sub_self, listed, encode_array_of_noList noList]
  · exact deeper

/-- A list that is nested so many times encodes a value by encoding its nodes, and changes nothing
else. A choice from an array encodes it as the list that is nested once more does. -/
theorem lists_encode_nodes {base : Kind} (noList : ∀ item, base ≠ .list item) (depth : Nat) :
    (∀ value result : Value, value.NodesEncoded depth base.encode result ↔
      result = (base.listed depth).encode value) ∧
    (∀ value : Value, value.RestUnchanged depth ((base.listed depth).encode value)) ∧
    ∀ (field : Field) (items : List Value), field.kind = base.listed depth →
      Operator.oneOf.transform (some field) (.array items) =
        (base.listed (depth + 1)).encode (.array items) := by
  refine ⟨?_, restUnchanged_encode noList depth, ?_⟩
  · intro value result
    constructor
    · exact eq_encode_of_nodesEncoded
    · intro same
      rw [same]
      exact nodesEncoded_encode base depth value
  · intro field items kind
    rw [encode_listed_array, ← kind]
    rfl

def votes : Field :=
  ⟨"votes", none, (scalar .bool).listed 2⟩

def givenVotes : Value :=
  .array [.string "yes",
    .array [.string "NO", .array [.string "yes"], .mapping [("a", .string "no")]]]

def storedVotes : Value :=
  .array [.bool true,
    .array [.bool false, .array [.string "yes"], .mapping [("a", .string "no")]]]

/-- Lists of lists of truths: a text on the way is encoded as one in its place would be, a third
array and a mapping stay as they are. -/
theorem votes_encode_nodes :
    (∀ item, scalar .bool ≠ .list item) ∧ votes.kind = (scalar .bool).listed 2 ∧
    givenVotes.NodesEncoded 2 (scalar .bool).encode storedVotes ∧
    givenVotes.RestUnchanged 2 storedVotes ∧
    Operator.oneOf.transform (some votes) (.array [givenVotes]) = .array [storedVotes] := by
  have noList : ∀ item, scalar .bool ≠ .list item := by simp
  have stored : storedVotes = ((scalar .bool).listed 2).encode givenVotes := rfl
  obtain ⟨nodes, unchanged, choice⟩ := lists_encode_nodes noList 2
  refine ⟨noList, rfl, (nodes givenVotes storedVotes).mpr stored, ?_, ?_⟩
  · rw [stored]
    exact unchanged givenVotes
  · rw [choice votes [givenVotes] rfl, stored]
    rfl

end Kind

namespace Operator

theorem encodeFor_encodeFor (field : Option Field) (value : Value) :
    encodeFor field (encodeFor field value) = encodeFor field value := by
  cases field with
  | none => rfl
  | some field => exact field.kind.encode_encode value

theorem transform_oneOf_of_noArray {value : Value} (noArray : value.isArray = false)
    (field : Option Field) : oneOf.transform field value = .array [encodeFor field value] := by
  cases value with
  | array items => cases noArray
  | _ => rfl

theorem transform_oneOf_array (field : Option Field) (items : List Value) :
    oneOf.transform field (.array items) = .array (items.map (encodeFor field)) := rfl

theorem transform_negation (field : Option Field) (value : Value) :
    negation.transform field value =
      if value.isMapping then value else encodeFor field value := by
  cases value <;> rfl

theorem transform_transform (operator : Operator) (field : Option Field) (value : Value) :
    operator.transform field (operator.transform field value) =
      operator.transform field value := by
  cases operator with
  | existence => rfl
  | isNull => rfl
  | oneOf =>
      rcases value.noArray_or_array with noArray | ⟨items, rfl⟩
      · rw [transform_oneOf_of_noArray noArray, transform_oneOf_array, List.map_singleton,
          encodeFor_encodeFor]
      · rw [transform_oneOf_array, transform_oneOf_array,
          Value.map_map_of_twice (encodeFor_encodeFor field)]
  | negation =>
      rw [transform_negation field value]
      split
      · rename_i maps
        rw [transform_negation, if_pos maps]
      · rw [transform_negation, encodeFor_encodeFor, ite_self]
  | _ => exact encodeFor_encodeFor field value

/-- Values that are stored already are stored as they are, by every operator and by every kind. -/
theorem encoding_twice_is_once (operator : Operator) (field : Option Field) (kind : Kind)
    (value : Value) :
    operator.transform field (operator.transform field value) =
        operator.transform field value ∧
      kind.encode (kind.encode value) = kind.encode value := by
  constructor
  · exact operator.transform_transform field value
  · exact kind.encode_encode value

end Operator

end DocFilter
