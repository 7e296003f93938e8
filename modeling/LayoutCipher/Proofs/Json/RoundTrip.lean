import LayoutCipher.Proofs.Json.Literals

/-!
# Reading back what is written

Both writers put the same tokens down and differ in the blanks between them.  The reader leaves
blanks out wherever they may stand, so it reads a value back from its text in either form, as long
as every number in the value is an integer.
-/

namespace LayoutCipher.Json

/-! ## One writer -/

/-- The blanks of a writer: in front of the items of a level, and behind a colon. -/
structure Spacing where
  newline : Nat → List Char
  space : List Char
  isBlank_of_mem_newline : ∀ {level : Nat}, ∀ c ∈ newline level, Reader.isBlank c
  isBlank_of_mem_space : ∀ c ∈ space, Reader.isBlank c

namespace Spacing

/-- No blanks at all. -/
def none : Spacing where
  newline _ := []
  space := []
  isBlank_of_mem_newline := nofun
  isBlank_of_mem_space := nofun

/-- A line for each item, indented by its level. -/
def lines : Spacing where
  newline := Json.newline
  space := [' ']
  isBlank_of_mem_newline c mem := by
    rcases List.mem_cons.mp mem with rfl | mem
    · rfl
    · rw [List.eq_of_mem_replicate mem]
      rfl
  isBlank_of_mem_space c mem := by
    rw [List.mem_singleton.mp mem]
    rfl

@[simp]
theorem newline_none (level : Nat) : none.newline level = [] :=
  rfl

@[simp]
theorem space_none : none.space = [] :=
  rfl

@[simp]
theorem newline_lines (level : Nat) : lines.newline level = Json.newline level :=
  rfl

@[simp]
theorem space_lines : lines.space = [' '] :=
  rfl

end Spacing

section

variable (spacing : Spacing)

/-- The items behind the first, and the end of the array or object. -/
def others (level : Nat) (close : Char) : List (List Char) → List Char
  | [] => spacing.newline level ++ [close]
  | item :: rest => ',' :: (spacing.newline (level + 1) ++ (item ++ others level close rest))

/-- The items of an array or object, at least one. -/
def block (level : Nat) (close : Char) (first : List Char) (rest : List (List Char)) : List Char :=
  spacing.newline (level + 1) ++ (first ++ others spacing level close rest)

/-- A member from its name and the text of its value. -/
def memberChars (name : String) (value : List Char) : List Char :=
  stringChars name ++ ':' :: (spacing.space ++ value)

mutual

/-- A value with the blanks of a writer between its tokens. -/
def spaced (level : Nat) : Json → List Char
  | .array (first :: rest) =>
      '[' :: block spacing level ']' (spaced (level + 1) first) (elementItems (level + 1) rest)
  | .object ((name, value) :: rest) =>
      '\x7b' :: block spacing level '\x7d' (memberChars spacing name (spaced (level + 1) value))
        (memberItems (level + 1) rest)
  | value => compactChars value

def elementItems (level : Nat) : List Json → List (List Char)
  | [] => []
  | element :: rest => spaced level element :: elementItems level rest

def memberItems (level : Nat) : List (String × Json) → List (List Char)
  | [] => []
  | (name, value) :: rest =>
      memberChars spacing name (spaced level value) :: memberItems level rest

end

end

mutual

theorem spaced_none (level : Nat) : ∀ value, spaced .none level value = value.compactChars
  | .null | .bool _ | .integer _ | .decimal _ | .string _ | .array [] | .object [] => rfl
  | .array (first :: rest) => by
      simp [spaced, block, compactChars, spaced_none (level + 1) first, others_none level rest]
  | .object ((name, value) :: rest) => by
      simp [spaced, block, memberChars, compactChars, spaced_none (level + 1) value,
        others_none_members level rest]

theorem others_none (level : Nat) : ∀ elements,
    others .none level ']' (elementItems .none (level + 1) elements) = compactElements elements
  | [] => rfl
  | element :: rest => by
      simp [others, elementItems, compactElements, spaced_none (level + 1) element,
        others_none level rest]

theorem others_none_members (level : Nat) : ∀ members,
    others .none level '\x7d' (memberItems .none (level + 1) members) = compactMembers members
  | [] => rfl
  | (name, value) :: rest => by
      simp [others, memberItems, memberChars, compactMembers, spaced_none (level + 1) value,
        others_none_members level rest]

end

mutual

theorem spaced_lines (level : Nat) : ∀ value, spaced .lines level value = value.prettyChars level
  | .null | .bool _ | .integer _ | .decimal _ | .string _ | .array [] | .object [] => rfl
  | .array (first :: rest) => by
      simp [spaced, block, prettyChars, spaced_lines (level + 1) first, others_lines level rest]
  | .object ((name, value) :: rest) => by
      simp [spaced, block, memberChars, prettyChars, spaced_lines (level + 1) value,
        others_lines_members level rest]

theorem others_lines (level : Nat) : ∀ elements,
    others .lines level ']' (elementItems .lines (level + 1) elements) =
      prettyElements level elements
  | [] => rfl
  | element :: rest => by
      simp [others, elementItems, prettyElements, spaced_lines (level + 1) element,
        others_lines level rest]

theorem others_lines_members (level : Nat) : ∀ members,
    others .lines level '\x7d' (memberItems .lines (level + 1) members) =
      prettyMembers level members
  | [] => rfl
  | (name, value) :: rest => by
      simp [others, memberItems, memberChars, prettyMembers, spaced_lines (level + 1) value,
        others_lines_members level rest]

end

/-! ## Values and their items -/

/-- A value whose numbers are integers. -/
inductive Integral : Json → Prop where
  | null : Integral .null
  | bool (b : Bool) : Integral (.bool b)
  | integer (n : Int) : Integral (.integer n)
  | string (s : String) : Integral (.string s)
  | array {elements : List Json} (all : ∀ element ∈ elements, Integral element) :
      Integral (.array elements)
  | object {members : List (String × Json)} (all : ∀ member ∈ members, Integral member.2) :
      Integral (.object members)

section

variable {spacing : Spacing} {level : Nat}

theorem elementItems_eq_map (elements : List Json) :
    elementItems spacing level elements = elements.map (spaced spacing level) := by
  induction elements with
  | nil => rfl
  | cons element rest ih => rw [elementItems, ih, List.map_cons]

theorem memberItems_eq_map (members : List (String × Json)) :
    memberItems spacing level members =
      members.map fun member => memberChars spacing member.1 (spaced spacing level member.2) := by
  induction members with
  | nil => rfl
  | cons member rest ih => rw [memberItems, ih, List.map_cons]

theorem length_others_pos (spacing : Spacing) (level : Nat) (close : Char)
    (items : List (List Char)) : 0 < (others spacing level close items).length := by
  cases items <;> simp [others]

theorem length_lt_others (spacing : Spacing) (level : Nat) (close : Char) {item : List Char}
    {items : List (List Char)} (mem : item ∈ items) :
    item.length < (others spacing level close items).length := by
  induction items with
  | nil => cases mem
  | cons other items ih =>
      simp only [others, List.length_cons, List.length_append]
      rcases List.mem_cons.mp mem with rfl | mem
      · omega
      · have := ih mem
        omega

theorem length_lt_block (spacing : Spacing) (level : Nat) (close : Char) {first item : List Char}
    {rest : List (List Char)} (mem : item ∈ first :: rest) :
    item.length < (block spacing level close first rest).length := by
  rw [block, List.length_append, List.length_append]
  rcases List.mem_cons.mp mem with rfl | mem
  · have := length_others_pos spacing level close rest
    omega
  · have := length_lt_others spacing level close mem
    omega

theorem length_spaced_lt_array {element : Json} {elements : List Json} (mem : element ∈ elements) :
    (spaced spacing (level + 1) element).length <
      (spaced spacing level (.array elements)).length := by
  cases elements with
  | nil => cases mem
  | cons first rest =>
      rw [spaced, List.length_cons, elementItems_eq_map]
      have item : spaced spacing (level + 1) element ∈
          (first :: rest).map (spaced spacing (level + 1)) := List.mem_map_of_mem mem
      exact Nat.lt_succ_of_lt (length_lt_block spacing level ']' item)

theorem length_spaced_lt_object {member : String × Json} {members : List (String × Json)}
    (mem : member ∈ members) :
    (spaced spacing (level + 1) member.2).length <
      (spaced spacing level (.object members)).length := by
  cases members with
  | nil => cases mem
  | cons first rest =>
      rw [spaced, List.length_cons, memberItems_eq_map]
      have item : memberChars spacing member.1 (spaced spacing (level + 1) member.2) ∈
          (first :: rest).map fun member =>
            memberChars spacing member.1 (spaced spacing (level + 1) member.2) :=
        List.mem_map_of_mem mem
      have shorter := length_lt_block spacing level '\x7d' item
      simp only [memberChars, List.length_append, List.length_cons] at shorter ⊢
      omega

/-- A value opens with a character that is neither blank nor the end of an array. -/
theorem exists_spaced_eq_cons (spacing : Spacing) (level : Nat) {value : Json}
    (integral : Integral value) :
    ∃ c rest, spaced spacing level value = c :: rest ∧ Reader.isBlank c = false ∧ c ≠ ']' := by
  cases integral with
  | null => exact ⟨_, _, rfl, rfl, by decide⟩
  | bool b => cases b <;> exact ⟨_, _, rfl, rfl, by decide⟩
  | integer n =>
      obtain ⟨c, digits, written, opens⟩ := Reader.exists_ofInt_eq_cons n
      refine ⟨c, digits, written, Reader.isBlank_of_opensInteger opens, ?_⟩
      rintro rfl
      revert opens
      decide
  | string s => exact ⟨_, _, rfl, rfl, by decide⟩
  | @array elements _ => cases elements <;> exact ⟨_, _, rfl, rfl, by decide⟩
  | @object members _ => cases members <;> exact ⟨_, _, rfl, rfl, by decide⟩

namespace Reader

/-! ## Blanks -/

theorem skipBlanks_append {blanks : List Char} (blank : ∀ c ∈ blanks, isBlank c)
    (text : List Char) : skipBlanks (blanks ++ text) = skipBlanks text :=
  List.dropWhile_append_of_pos blank

theorem skipBlanks_cons {c : Char} (token : isBlank c = false) (rest : List Char) :
    skipBlanks (c :: rest) = c :: rest :=
  List.dropWhile_cons_of_neg (Bool.eq_false_iff.mp token)

theorem skipBlanks_stringChars (s : String) (rest : List Char) :
    skipBlanks (stringChars s ++ rest) = stringChars s ++ rest :=
  skipBlanks_cons rfl _

theorem value?_append {surrogates : Surrogates} {blanks : List Char}
    (blank : ∀ c ∈ blanks, isBlank c) (depth : Nat) (text : List Char) :
    value? surrogates depth (blanks ++ text) = value? surrogates depth text := by
  cases depth with
  | zero => rfl
  | succ depth => rw [value?, value?, skipBlanks_append blank]

theorem continuesNumber_of_isBlank {c : Char} (blank : isBlank c) : continuesNumber c = false := by
  simp only [isBlank, Bool.or_eq_true, decide_eq_true_eq] at blank
  rcases blank with ((rfl | rfl) | rfl) | rfl <;> rfl

theorem endsNumber_append {blanks : List Char} (blank : ∀ c ∈ blanks, isBlank c) {c : Char}
    (stops : continuesNumber c = false) (rest : List Char) : EndsNumber (blanks ++ c :: rest) := by
  cases blanks with
  | nil => exact endsNumber_cons.mpr stops
  | cons b blanks =>
      exact endsNumber_cons.mpr (continuesNumber_of_isBlank (blank b List.mem_cons_self))

/-- No number goes on behind an item. -/
theorem endsNumber_others (spacing : Spacing) (level : Nat) (close : Char)
    (stops : continuesNumber close = false) (items : List (List Char)) (behind : List Char) :
    EndsNumber (others spacing level close items ++ behind) := by
  cases items with
  | cons item items => exact endsNumber_cons.mpr rfl
  | nil =>
      rw [others, List.append_assoc]
      exact endsNumber_append spacing.isBlank_of_mem_newline stops behind

/-! ## Items -/

/-- A reader takes a value off the front of every text that opens with its own text, as long as no
number goes on behind it. -/
def Reads (read : List Char → Option (Json × List Char)) (text : List Char) (value : Json) :
    Prop :=
  ∀ rest, EndsNumber rest → read (text ++ rest) = some (value, rest)

theorem block_append (close : Char) (first : List Char) (rest : List (List Char))
    (behind : List Char) :
    block spacing level close first rest ++ behind =
      spacing.newline (level + 1) ++ (first ++ (others spacing level close rest ++ behind)) := by
  simp only [block, List.append_assoc]

theorem skipBlanks_block_member {close : Char} {name : String} {value behind : List Char}
    {rest : List (List Char)} :
    skipBlanks (block spacing level close (memberChars spacing name value) rest ++ behind) =
      stringChars name ++ ':' :: (spacing.space ++ value ++
        (others spacing level close rest ++ behind)) := by
  rw [block_append, skipBlanks_append spacing.isBlank_of_mem_newline, memberChars,
    List.append_assoc, skipBlanks_stringChars]
  rfl

theorem exists_eq_succ_of_length_others_le {close : Char} {items : List (List Char)} {bound : Nat}
    (enough : (others spacing level close items).length ≤ bound) : ∃ below, bound = below + 1 :=
  Nat.exists_eq_add_one.mpr (Nat.lt_of_lt_of_le (length_others_pos spacing level close items) enough)

section

variable {read : List Char → Option (Json × List Char)} {bound : Nat}
  {text behind next rest : List Char} {element : Json}

theorem elements?_last (taken : read text = some (element, rest))
    (closed : skipBlanks rest = ']' :: behind) :
    elements? read (bound + 1) text = some ([element], behind) := by
  rw [elements?, taken]
  simp only [Option.bind_eq_bind, Option.bind_some, closed]
  rfl

theorem elements?_more {elements : List Json} (taken : read text = some (element, rest))
    (separated : skipBlanks rest = ',' :: next)
    (others : elements? read bound next = some (elements, behind)) :
    elements? read (bound + 1) text = some (element :: elements, behind) := by
  rw [elements?, taken]
  simp only [Option.bind_eq_bind, Option.bind_some, separated, others]
  rfl

end

section

variable {surrogates : Surrogates} {read : String → List Char → Option (Json × List Char)}
  {bound : Nat} {text behind next rest : List Char} {name : String} {value : Json}

theorem members?_last (named : skipBlanks text = stringChars name ++ ':' :: next)
    (taken : read name next = some (value, rest)) (closed : skipBlanks rest = '\x7d' :: behind) :
    members? surrogates read (bound + 1) text = some ([(name, value)], behind) := by
  rw [members?, named, string?_stringChars]
  simp only [Option.bind_eq_bind, Option.bind_some,
    skipBlanks_cons (show isBlank ':' = false from rfl), taken, closed]
  rfl

theorem members?_more {after : List Char} {members : List (String × Json)}
    (named : skipBlanks text = stringChars name ++ ':' :: next)
    (taken : read name next = some (value, rest)) (separated : skipBlanks rest = ',' :: after)
    (others : members? surrogates read bound after = some (members, behind)) :
    members? surrogates read (bound + 1) text = some ((name, value) :: members, behind) := by
  rw [members?, named, string?_stringChars]
  simp only [Option.bind_eq_bind, Option.bind_some,
    skipBlanks_cons (show isBlank ':' = false from rfl), taken, separated, others]
  rfl

end

theorem skipBlanks_others_nil {close : Char} (token : isBlank close = false)
    (behind : List Char) :
    skipBlanks (others spacing level close [] ++ behind) = close :: behind := by
  rw [others, List.append_assoc, skipBlanks_append spacing.isBlank_of_mem_newline]
  exact skipBlanks_cons token behind

theorem skipBlanks_others_cons (close : Char) (item : List Char) (rest : List (List Char))
    (behind : List Char) :
    skipBlanks (others spacing level close (item :: rest) ++ behind) =
      ',' :: (block spacing level close item rest ++ behind) :=
  skipBlanks_cons rfl _

theorem elements?_block {read : List Char → Option (Json × List Char)} {first : Json}
    {rest : List Json}
    (reads : ∀ element ∈ first :: rest,
      Reads read (spacing.newline (level + 1) ++ spaced spacing (level + 1) element) element)
    {bound : Nat}
    (enough : (others spacing level ']' (elementItems spacing (level + 1) rest)).length ≤ bound)
    (behind : List Char) :
    elements? read bound (block spacing level ']' (spaced spacing (level + 1) first)
        (elementItems spacing (level + 1) rest) ++ behind) =
      some (first :: rest, behind) := by
  -- every element uses up one step and at least its comma, so the bound outlasts the elements
  induction rest generalizing first bound with
  | nil =>
      obtain ⟨bound, rfl⟩ := exists_eq_succ_of_length_others_le enough
      have taken := reads first List.mem_cons_self _
        (endsNumber_others spacing level ']' rfl [] behind)
      rw [List.append_assoc] at taken
      rw [block_append]
      exact elements?_last taken (skipBlanks_others_nil rfl behind)
  | cons second rest ih =>
      obtain ⟨bound, rfl⟩ := exists_eq_succ_of_length_others_le enough
      have taken := reads first List.mem_cons_self _ (endsNumber_others spacing level ']' rfl
        (elementItems spacing (level + 1) (second :: rest)) behind)
      rw [List.append_assoc] at taken
      rw [block_append]
      refine elements?_more taken (skipBlanks_others_cons ..)
        (ih (fun element mem => reads element (List.mem_cons_of_mem first mem)) ?_)
      simp only [elementItems, others, List.length_cons, List.length_append] at enough
      omega

theorem members?_block {surrogates : Surrogates}
    {read : String → List Char → Option (Json × List Char)} {first : String × Json}
    {rest : List (String × Json)}
    (reads : ∀ member ∈ first :: rest,
      Reads (read member.1) (spacing.space ++ spaced spacing (level + 1) member.2) member.2)
    {bound : Nat}
    (enough :
      (others spacing level '\x7d' (memberItems spacing (level + 1) rest)).length ≤ bound)
    (behind : List Char) :
    members? surrogates read bound (block spacing level '\x7d'
        (memberChars spacing first.1 (spaced spacing (level + 1) first.2))
        (memberItems spacing (level + 1) rest) ++ behind) =
      some (first :: rest, behind) := by
  induction rest generalizing first bound with
  | nil =>
      obtain ⟨bound, rfl⟩ := exists_eq_succ_of_length_others_le enough
      have taken := reads first List.mem_cons_self _
        (endsNumber_others spacing level '\x7d' rfl [] behind)
      exact members?_last skipBlanks_block_member taken (skipBlanks_others_nil rfl behind)
  | cons second rest ih =>
      obtain ⟨bound, rfl⟩ := exists_eq_succ_of_length_others_le enough
      have taken := reads first List.mem_cons_self _ (endsNumber_others spacing level '\x7d' rfl
        (memberItems spacing (level + 1) (second :: rest)) behind)
      refine members?_more skipBlanks_block_member taken (skipBlanks_others_cons ..)
        (ih (fun member mem => reads member (List.mem_cons_of_mem first mem)) ?_)
      simp only [memberItems, others, List.length_cons, List.length_append] at enough
      omega

theorem array?_spaced {read : List Char → Option (Json × List Char)} {elements : List Json}
    (integral : ∀ element ∈ elements, Integral element)
    (reads : ∀ element ∈ elements,
      Reads read (spacing.newline (level + 1) ++ spaced spacing (level + 1) element) element)
    (behind : List Char) :
    ∃ text, spaced spacing level (.array elements) ++ behind = '[' :: text ∧
      array? read text = some (elements, behind) := by
  cases elements with
  | nil => exact ⟨_, rfl, rfl⟩
  | cons first rest =>
      refine ⟨block spacing level ']' _ _ ++ behind, rfl, ?_⟩
      unfold array?
      split
      -- the reader looks for the end of an empty array first; no value opens like one
      · next ends =>
          obtain ⟨c, chars, written, token, notEnd⟩ :=
            exists_spaced_eq_cons spacing (level + 1) (integral first List.mem_cons_self)
          rw [block_append, skipBlanks_append spacing.isBlank_of_mem_newline, written,
            List.cons_append, skipBlanks_cons token] at ends
          cases ends
          exact absurd rfl notEnd
      · refine elements?_block reads ?_ behind
        simp only [block, List.length_append]
        omega

theorem object?_spaced {surrogates : Surrogates}
    (read : String → List Char → Option (Json × List Char)) {members : List (String × Json)}
    (reads : ∀ member ∈ members,
      Reads (read member.1) (spacing.space ++ spaced spacing (level + 1) member.2) member.2)
    (behind : List Char) :
    ∃ text, spaced spacing level (.object members) ++ behind = '\x7b' :: text ∧
      object? surrogates read text = some (members, behind) := by
  cases members with
  | nil => exact ⟨_, rfl, rfl⟩
  | cons first rest =>
      refine ⟨block spacing level '\x7d' _ _ ++ behind, rfl, ?_⟩
      unfold object?
      split
      · next ends =>
          rw [skipBlanks_block_member] at ends
          cases ends
      · refine members?_block reads ?_ behind
        simp only [block, List.length_append]
        omega

/-! ## Values -/

section

variable {surrogates : Surrogates} {depth : Nat}

theorem value?_array (text : List Char) :
    value? surrogates (depth + 1) ('[' :: text) =
      (array? (value? surrogates depth) text).map (Prod.map .array id) := by
  change (do
    let read ← array? (value? surrogates depth) text
    return (Json.array read.1, read.2)) = _
  cases array? (value? surrogates depth) text <;> rfl

theorem value?_object (text : List Char) :
    value? surrogates (depth + 1) ('\x7b' :: text) =
      (object? surrogates (fun _ => value? surrogates depth) text).map
        (Prod.map .object id) := by
  change (do
    let read ← object? surrogates (fun _ => value? surrogates depth) text
    return (Json.object read.1, read.2)) = _
  cases object? surrogates (fun _ => value? surrogates depth) text <;> rfl

theorem value?_stringChars (s : String) (rest : List Char) :
    value? surrogates (depth + 1) (stringChars s ++ rest) = some (.string s, rest) := by
  change (do
    let read ← string? surrogates (stringChars s ++ rest)
    return (Json.string read.1, read.2)) = _
  rw [string?_stringChars]
  rfl

theorem value?_of_opensInteger {c : Char} (opens : c = '-' ∨ c.isDigit) (rest : List Char) :
    value? surrogates (depth + 1) (c :: rest) = number? (c :: rest) := by
  rw [value?, skipBlanks_cons (isBlank_of_opensInteger opens)]
  split
  -- none of the other values opens with a sign or a digit
  case h_7 => rfl
  all_goals
    next eq =>
      cases eq
      exact absurd opens (by decide)

theorem value?_ofInt (n : Int) {rest : List Char} (ends : EndsNumber rest) :
    value? surrogates (depth + 1) (Decimal.ofInt n ++ rest) = some (.integer n, rest) := by
  have read := number?_ofInt n ends
  obtain ⟨c, digits, written, opens⟩ := exists_ofInt_eq_cons n
  rw [written] at read ⊢
  exact (value?_of_opensInteger opens _).trans read

/-- A value is read back whatever the blanks, if the bound on the depth exceeds the length of its
text. -/
theorem reads_spaced (surrogates : Surrogates) {value : Json} (integral : Integral value)
    {level depth : Nat}
    (enough : (spaced spacing level value).length ≤ depth) :
    Reads (value? surrogates (depth + 1)) (spaced spacing level value) value := by
  -- the induction is on the value; `Integral` carries the claim for all items at once
  intro behind ends
  induction integral generalizing level depth behind with
  | null => rfl
  | bool b => cases b <;> rfl
  | integer n => exact value?_ofInt n ends
  | string s => exact value?_stringChars s behind
  | @array elements all ih =>
      have reads : ∀ element ∈ elements, Reads (value? surrogates depth)
          (spacing.newline (level + 1) ++ spaced spacing (level + 1) element) element := by
        intro element mem rest stops
        -- an element is shorter than its array, so a level less is enough for it
        have shorter := Nat.lt_of_lt_of_le (length_spaced_lt_array mem) enough
        obtain ⟨below, rfl⟩ := Nat.exists_eq_succ_of_ne_zero (Nat.ne_zero_of_lt shorter)
        rw [List.append_assoc, value?_append spacing.isBlank_of_mem_newline]
        exact ih element mem (Nat.le_of_lt_succ shorter) rest stops
      obtain ⟨text, written, read⟩ := array?_spaced all reads behind
      rw [written, value?_array, read]
      rfl
  | @object members all ih =>
      have reads : ∀ member ∈ members, Reads (value? surrogates depth)
          (spacing.space ++ spaced spacing (level + 1) member.2) member.2 := by
        intro member mem rest stops
        have shorter := Nat.lt_of_lt_of_le (length_spaced_lt_object mem) enough
        obtain ⟨below, rfl⟩ := Nat.exists_eq_succ_of_ne_zero (Nat.ne_zero_of_lt shorter)
        rw [List.append_assoc, value?_append spacing.isBlank_of_mem_space]
        exact ih member mem (Nat.le_of_lt_succ shorter) rest stops
      obtain ⟨text, written, read⟩ :=
        object?_spaced (fun _ => value? surrogates depth) reads behind
      rw [written, value?_object, read]
      rfl

end

end Reader

end

/-! ## Whole texts -/

theorem read?_spaced (spacing : Spacing) {value : Json} (integral : Integral value) :
    read? (String.ofList (spaced spacing 0 value)) = some value := by
  have read := Reader.reads_spaced .refused integral
    (Nat.le_refl (spaced spacing 0 value).length) [] Reader.endsNumber_nil
  rw [List.append_nil] at read
  simp only [read?, String.length_ofList, String.toList_ofList, read, Option.bind_eq_bind,
    Option.bind_some]
  rfl

theorem read?_compact {value : Json} (integral : Integral value) :
    read? value.compact = some value := by
  rw [compact, ← spaced_none 0 value, read?_spaced .none integral]

theorem read?_pretty {value : Json} (integral : Integral value) :
    read? value.pretty = some value := by
  rw [pretty, ← spaced_lines 0 value, read?_spaced .lines integral]

end LayoutCipher.Json
