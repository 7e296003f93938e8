import LayoutCipher.Operation.Json
import LayoutCipher.Proofs.Cipher.Amounts
import LayoutCipher.Proofs.Json.Leniency
import LayoutCipher.Proofs.Json.RoundTrip

/-!
# Operations and their JSON texts

An operation is read straight from a text, without the value that the text denotes.  Where there is
such a value the two agree, so an operation comes back from every text that denotes what it is
written as: with blanks, with escapes, with its members in another order.
-/

namespace LayoutCipher.Operation

open Json.Reader

/-! ## Values -/

theorem ofJson?_toJson (operation : Operation) : ofJson? operation.toJson = some operation := by
  cases operation with
  | horizontalFlip => rfl
  | verticalFlip => rfl
  | rotate amount =>
      have fits : amountOfInt? amount.toInt = some amount := amountOfInt?_eq_some_iff.mpr rfl
      change Operation.rotate <$> amountOfInt? amount.toInt = _
      rw [fits]
      rfl

theorem mapM_ofJson?_map_toJson (operations : List Operation) :
    (operations.map toJson).mapM ofJson? = some operations := by
  induction operations with
  | nil => rfl
  | cons operation rest ih => simp [ofJson?_toJson, ih]

theorem integral_toJson (operation : Operation) : Json.Integral operation.toJson := by
  cases operation with
  | horizontalFlip | verticalFlip => exact .object (by simpa using .string _)
  | rotate amount => exact .object (by simpa using ⟨.string _, .integer _⟩)

/-! ## Members -/

section

variable {members members' : List (String × Json)} {name : String}

theorem mem_valuesNamed {value : Json} :
    value ∈ valuesNamed name members ↔ (name, value) ∈ members := by
  simp [valuesNamed]

/-- A single value is the only one in whatever order the members come. -/
theorem valuesNamed_eq_of_perm (order : members'.Perm members)
    (single : (valuesNamed name members).length ≤ 1) :
    valuesNamed name members' = valuesNamed name members := by
  have values : (valuesNamed name members').Perm (valuesNamed name members) :=
    (order.filter _).map _
  cases found : valuesNamed name members with
  | nil => exact List.perm_nil.mp (found ▸ values)
  | cons value others =>
      rw [found] at single values
      obtain rfl : others = [] := List.length_eq_zero_iff.mp (by simpa using single)
      exact List.perm_singleton.mp values

theorem ofMembers?_of_perm {operation : Operation} (written : operation.toJson = .object members)
    (order : members'.Perm members) : ofMembers? members' = some operation := by
  have read : ofMembers? members = some operation := by
    rw [← ofJson?_toJson operation, written]
    rfl
  have single : (valuesNamed "op" members).length ≤ 1 ∧
      (valuesNamed "amount" members).length ≤ 1 := by
    cases operation <;>
    · cases written
      exact ⟨Nat.le_of_eq rfl, by simp [valuesNamed]⟩
  rw [← read, ofMembers?, valuesNamed_eq_of_perm order single.1,
    valuesNamed_eq_of_perm order single.2]
  rfl

/-- A rotation needs an amount that fits into a word. -/
theorem ofMembers?_rotate_eq_none (named : ("op", .string "rotate") ∈ members)
    (unfit : ∀ amount, ("amount", amount) ∈ members →
      ∃ n, amount = .integer n ∧ ¬ Cipher.FitsWord n) : ofMembers? members = none := by
  have mem := mem_valuesNamed.mpr named
  unfold ofMembers?
  split
  · next found _ =>
      rw [found, List.mem_singleton] at mem
      rw [← mem]
      rfl
  · next amount found given =>
      rw [found, List.mem_singleton] at mem
      have listed : amount ∈ valuesNamed "amount" members := given ▸ List.mem_singleton_self amount
      obtain ⟨n, rfl, tooLarge⟩ := unfit amount (mem_valuesNamed.mp listed)
      have none : amountOfInt? n = none := Cipher.amountOfInt?_eq_none_iff.mpr tooLarge
      rw [← mem]
      change Operation.rotate <$> amountOfInt? n = _
      rw [none]
      rfl
  · rfl

end

/-! ## Texts -/

theorem ofJson?_numberOfParts (negative : Bool) (whole fraction exponent : List Char) :
    ofJson? (numberOfParts negative whole fraction exponent) = none := by
  unfold numberOfParts
  dsimp only
  split <;> rfl

theorem ofJson?_of_number? {text rest : List Char} {value : Json}
    (read : number? text = some (value, rest)) : ofJson? value = none := by
  simp only [number?, Option.bind_eq_bind, Option.bind_eq_some_iff] at read
  obtain ⟨_, _, _, _, _, _, made⟩ := read
  cases made
  exact ofJson?_numberOfParts ..

/-- The operation at the front of a text is the one that the value there describes. -/
theorem readFront?_of_value? {depth : Nat} {text rest : List Char} {value : Json}
    (enough : depth ≤ text.length + 2) (read : value? .refused depth text = some (value, rest)) :
    readFront? text = (ofJson? value).map fun operation => (operation, rest) := by
  obtain _ | depth := depth
  · cases read
  have deeper (surrogates : Json.Surrogates) (text' : List Char) :=
    within_value? surrogates (Nat.le_of_succ_le_succ enough) text'
  rw [value?] at read
  unfold readFront?
  split at read
  case h_1 opens =>
    obtain ⟨⟨elements, after⟩, taken, made⟩ := Option.bind_eq_some_iff.mp read
    cases made
    have within := within_array? (deeper .refused) _ _ taken
    simp only [opens, within, Option.bind_eq_bind, Option.bind_some, ofJson?]
    cases ofElements? elements <;> rfl
  case h_2 opens =>
    obtain ⟨⟨members, after⟩, taken, made⟩ := Option.bind_eq_some_iff.mp read
    cases made
    have within := within_object? .refused (fun name => deeper
      (if name = "op" || name = "amount" then .refused else .replaced)) _ _ taken
    simp only [opens, within, Option.bind_eq_bind, Option.bind_some, ofJson?]
    cases ofMembers? members <;> rfl
  -- a string or a word describes no operation, and none is read where it stands
  case h_3 opens | h_4 opens | h_5 opens | h_6 opens =>
    obtain ⟨_, _, made⟩ := Option.bind_eq_some_iff.mp read
    cases made
    rw [opens]
    rfl
  case h_7 noArray noObject _ _ _ _ =>
    rw [ofJson?_of_number? read]
    split
    · next opens => exact absurd opens (noObject _)
    · next opens => exact absurd opens (noArray _)
    · rfl

/-- Where a whole text denotes a value, it is read as the operation which that value describes. -/
theorem readJson?_of_read? {text : String} {value : Json} (denoted : Json.read? text = some value) :
    readJson? text = ofJson? value := by
  simp only [Json.read?, Option.bind_eq_bind, Option.bind_eq_some_iff] at denoted
  obtain ⟨⟨value', rest⟩, read, blank⟩ := denoted
  dsimp only at blank
  split at blank
  · next ends =>
      cases blank
      rw [readJson?, readFront?_of_value? (by rw [String.length_toList]; omega) read]
      cases ofJson? value with
      | none => rfl
      | some operation => exact if_pos ends
  · cases blank

theorem readJson?_compact (operation : Operation) :
    readJson? operation.toJson.compact = some operation := by
  rw [readJson?_of_read? (Json.read?_compact operation.integral_toJson), ofJson?_toJson]

theorem compact_toJson_injective {first second : Operation}
    (same : first.toJson.compact = second.toJson.compact) : first = second := by
  have read := readJson?_compact first
  rw [same, readJson?_compact] at read
  exact (Option.some.inj read).symm

/-! ## Lists -/

theorem readFront?_compactChars (operation : Operation) {rest : List Char}
    (ends : EndsNumber rest) :
    readFront? (operation.toJson.compactChars ++ rest) = some (operation, rest) := by
  have read : value? .refused _ (Json.spaced .none 0 operation.toJson ++ rest) = _ :=
    reads_spaced .refused operation.integral_toJson (Nat.le_refl _) rest ends
  rw [Json.spaced_none] at read
  have enough : operation.toJson.compactChars.length + 1 ≤
      (operation.toJson.compactChars ++ rest).length + 2 := by
    rw [List.length_append]
    omega
  rw [readFront?_of_value? enough read, ofJson?_toJson]
  rfl

theorem readElements?_compact (first : Operation) (operations : List Operation) {bound : Nat}
    (enough : operations.length < bound) (behind : List Char) :
    readElements? bound (first.toJson.compactChars ++
        (Json.compactElements (operations.map toJson) ++ behind)) =
      some (first :: operations, behind) := by
  -- every operation behind the first uses up one step of the bound
  induction operations generalizing first bound with
  | nil =>
      obtain ⟨bound, rfl⟩ := Nat.exists_eq_succ_of_ne_zero (Nat.ne_zero_of_lt enough)
      have taken : readFront? (first.toJson.compactChars ++ ']' :: behind) = _ :=
        first.readFront?_compactChars (endsNumber_cons.mpr rfl)
      simp only [readElements?, List.map_nil, Json.compactElements, List.singleton_append, taken]
      rfl
  | cons second operations ih =>
      obtain ⟨bound, rfl⟩ := Nat.exists_eq_succ_of_ne_zero (Nat.ne_zero_of_lt enough)
      have others := ih second (Nat.lt_of_succ_lt_succ enough)
      have taken : readFront? (first.toJson.compactChars ++ ',' :: (second.toJson.compactChars ++
          (Json.compactElements (operations.map toJson) ++ behind))) = _ :=
        first.readFront?_compactChars (endsNumber_cons.mpr rfl)
      simp only [readElements?, List.map_cons, Json.compactElements, List.cons_append,
        List.append_assoc, taken, Option.bind_eq_bind, Option.bind_some,
        skipBlanks_cons (show isBlank ',' = false from rfl), others]
      rfl

theorem exists_compactChars_toJson_eq_cons (operation : Operation) :
    ∃ rest, operation.toJson.compactChars = '\x7b' :: rest := by
  cases operation <;> exact ⟨_, rfl⟩

theorem length_le_length_compactElements (elements : List Json) :
    elements.length ≤ (Json.compactElements elements).length := by
  induction elements with
  | nil => exact Nat.zero_le _
  | cons element rest ih =>
      simp only [Json.compactElements, List.cons_append, List.length_cons, List.length_append]
      omega

theorem readList?_compact (first : Operation) (operations : List Operation) :
    readList? (first.toJson.compactChars ++ Json.compactElements (operations.map toJson)) =
      some (first :: operations, []) := by
  have enough : operations.length <
      (first.toJson.compactChars ++ Json.compactElements (operations.map toJson)).length + 1 := by
    have items := length_le_length_compactElements (operations.map toJson)
    rw [List.length_map] at items
    rw [List.length_append]
    omega
  have read := readElements?_compact first operations enough []
  rw [List.append_nil] at read
  obtain ⟨rest, opens⟩ := exists_compactChars_toJson_eq_cons first
  rw [← read, readList?, opens, List.cons_append,
    skipBlanks_cons (show isBlank '\x7b' = false from rfl)]
  rfl

theorem readListJson?_listJson (operations : List Operation) :
    readListJson? (listJson operations) = some operations := by
  cases operations with
  | nil => rfl
  | cons first operations =>
      have read := readList?_compact first operations
      have written : (listJson (first :: operations)).toList =
          '[' :: (first.toJson.compactChars ++ Json.compactElements (operations.map toJson)) := by
        simp [listJson, Json.compact, Json.compactChars]
      rw [readListJson?, written, skipBlanks_cons (show isBlank '[' = false from rfl)]
      simp only [read, Option.bind_eq_bind, Option.bind_some]
      rfl

/-! ## Round trips -/

/-- The text of a rotation, with the name first. -/
theorem compact_toJson_rotate (amount : Int64) :
    (rotate amount).toJson.compact = "\x7b\"op\":\"rotate\",\"amount\":" ++
      String.ofList (Decimal.ofInt amount.toInt) ++ "\x7d" := by
  apply String.toList_inj.mp
  simp [toJson, Json.compact, Json.compactChars, Json.compactMembers]
  rfl

theorem readJson?_of_perm {operation : Operation} {members members' : List (String × Json)}
    {text : String} (written : operation.toJson = .object members)
    (order : members'.Perm members) (denoted : Json.read? text = some (.object members')) :
    readJson? text = some operation := by
  rw [readJson?_of_read? denoted]
  exact ofMembers?_of_perm written order

theorem readJson?_amount_first (amount : Int64) :
    readJson? ("\x7b\"amount\":" ++ String.ofList (Decimal.ofInt amount.toInt) ++
      ",\"op\":\"rotate\"\x7d") = some (.rotate amount) := by
  let members : List (String × Json) :=
    [("amount", .integer amount.toInt), ("op", .string "rotate")]
  have written : (Json.object members).compact = "\x7b\"amount\":" ++
      String.ofList (Decimal.ofInt amount.toInt) ++ ",\"op\":\"rotate\"\x7d" := by
    apply String.toList_inj.mp
    simp [members, Json.compact, Json.compactChars, Json.compactMembers]
    rfl
  have integral : Json.Integral (.object members) :=
    .object (by simpa [members] using ⟨.integer _, .string _⟩)
  rw [← written]
  exact readJson?_of_perm rfl (.swap ..) (Json.read?_compact integral)

/-- An operation is read back from its text, and from every text that denotes an object with the
same members in any order.  So no two operations share a text.  A rotation without an amount, or
with an integer that is no word of 64 bits, is refused, whatever other members there are.  From the
text of a list every operation is read in its turn. -/
theorem readJson?_round_trip :
    (∀ operation : Operation, readJson? operation.toJson.compact = some operation) ∧
    (∀ amount : Int64,
      (rotate amount).toJson.compact = "\x7b\"op\":\"rotate\",\"amount\":" ++
        String.ofList (Decimal.ofInt amount.toInt) ++ "\x7d" ∧
      readJson? ("\x7b\"amount\":" ++ String.ofList (Decimal.ofInt amount.toInt) ++
        ",\"op\":\"rotate\"\x7d") = some (.rotate amount)) ∧
    (∀ (operation : Operation) (members members' : List (String × Json)) (text : String),
      operation.toJson = .object members → members'.Perm members →
      Json.read? text = some (.object members') → readJson? text = some operation) ∧
    (∀ first second : Operation, first.toJson.compact = second.toJson.compact ↔ first = second) ∧
    (∀ (members : List (String × Json)) (text : String),
      Json.read? text = some (.object members) → ("op", .string "rotate") ∈ members →
      (∀ amount, ("amount", amount) ∈ members →
        ∃ n, amount = .integer n ∧ ¬ Cipher.FitsWord n) →
      readJson? text = none) ∧
    ∀ operations : List Operation, readListJson? (listJson operations) = some operations := by
  refine ⟨readJson?_compact, fun amount => ⟨compact_toJson_rotate amount,
    readJson?_amount_first amount⟩, fun _ _ _ _ => readJson?_of_perm, fun first second => ?_,
    fun members text denoted named unfit => ?_, readListJson?_listJson⟩
  · exact ⟨compact_toJson_injective, fun same => same ▸ rfl⟩
  · rw [readJson?_of_read? denoted]
    exact ofMembers?_rotate_eq_none named unfit

/-- Blanks and an escape in a name do not matter, nor does a member more where a rotation is
refused: one number above the greatest word, and one that is not there. -/
theorem readJson?_round_trip_greatest :
    readJson? "\x7b \"amount\" : 9223372036854775807, \"\\u006fp\" : \"rotate\" \x7d" =
        some (.rotate 9223372036854775807) ∧
      readJson? "\x7b\"op\":\"rotate\",\"amount\":9223372036854775808\x7d" = none ∧
      readJson? "\x7b\"op\":\"rotate\",\"by\":1\x7d" = none := by
  obtain ⟨_, _, reorders, _, refuses, _⟩ := readJson?_round_trip
  refine ⟨?_, ?_, ?_⟩
  · exact reorders _ _ [("amount", .integer 9223372036854775807), ("op", .string "rotate")] _ rfl
      (.swap ..) (by rfl)
  · refine refuses [("op", .string "rotate"), ("amount", .integer 9223372036854775808)] _ (by rfl)
      (by simp) ?_
    intro amount mem
    obtain rfl : amount = .integer 9223372036854775808 := by simpa using mem
    exact ⟨_, rfl, by simp [Cipher.FitsWord]⟩
  · refine refuses [("op", .string "rotate"), ("by", .integer 1)] _ (by rfl) (by simp) (by simp)

end LayoutCipher.Operation
