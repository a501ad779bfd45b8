import MessageBus.Json.Reader
import MessageBus.Json.Writer
import Mathlib

namespace MessageBus.Json

section Writing

def quotedChars (s : String) : List Char := '"' :: (s.toList.flatMap escapeChar ++ ['"'])

@[simp]
theorem toList_quote (s : String) : (quote s).toList = quotedChars s := by
  rw [quote, String.toList_ofList, quotedChars]

mutual

/-- The characters that a value is written with. -/
def Value.chars : Value → List Char
  | .null => "null".toList
  | .bool b => (toString b).toList
  | .int n => (toString n).toList
  | .float x => x.text.toList
  | .string s => quotedChars s
  | .array items => '[' :: (itemChars true items ++ [']'])
  | .object members => '\x7b' :: (memberChars true members ++ ['\x7d'])

def itemChars (first : Bool) : List Value → List Char
  | [] => []
  | v :: rest => (if first then [] else [',']) ++ v.chars ++ itemChars false rest

def memberChars (first : Bool) : List (String × Value) → List Char
  | [] => []
  | (name, v) :: rest =>
    (if first then [] else [',']) ++ quotedChars name ++ [':'] ++ v.chars ++ memberChars false rest

end

mutual

theorem toList_append (v : Value) (out : String) :
    (v.append out).toList = out.toList ++ v.chars := by
  cases v with
  | null => simp [Value.append, Value.chars]
  | bool b => simp [Value.append, Value.chars]
  | int n => simp [Value.append, Value.chars]
  | float x => simp [Value.append, Value.chars]
  | string s => simp [Value.append, Value.chars]
  | array items =>
    rw [Value.append, String.toList_append, toList_appendItems items, Value.chars]
    simp
  | object members =>
    rw [Value.append, String.toList_append, toList_appendMembers members, Value.chars]
    simp

theorem toList_appendItems (items : List Value) (out : String) (first : Bool) :
    (appendItems out first items).toList = out.toList ++ itemChars first items := by
  cases items with
  | nil => simp [appendItems, itemChars]
  | cons v rest =>
    rw [appendItems, toList_appendItems rest, toList_append v, itemChars]
    cases first <;> simp

theorem toList_appendMembers (members : List (String × Value)) (out : String) (first : Bool) :
    (appendMembers out first members).toList = out.toList ++ memberChars first members := by
  cases members with
  | nil => simp [appendMembers, memberChars]
  | cons member rest =>
    obtain ⟨name, v⟩ := member
    rw [appendMembers, toList_appendMembers rest, toList_append v, memberChars]
    cases first <;> simp

end

theorem toList_text (v : Value) : v.text.toList = v.chars := by
  rw [Value.text, toList_append]
  rfl

end Writing

section Strings

variable {fuel : Nat} {acc rest : List Char}

/-- The digits of a control character are read back as its number. -/
theorem readEscaped_control : ∀ n < 0x20, ∀ rest,
    readEscaped ((if n < 0x10 then ['0', '0', '0'] else ['0', '0']) ++ Text.hexDigits n ++ rest) =
      some (Char.ofNat n, rest) := by
  intro n hn rest
  interval_cases n <;> rfl

theorem readString_escaped {c : Char} {cs : List Char} (h : readEscaped cs = some (c, rest)) :
    readString (fuel + 1) acc ('\\' :: 'u' :: cs) = readString fuel (c :: acc) rest := by
  rw [readString.eq_def]
  simp [h]

theorem readString_visible {c : Char} (quote : ¬ (c == '"') = true)
    (backslash : ¬ (c == '\\') = true) (visible : ¬ c.toNat < 0x20) :
    readString (fuel + 1) acc (c :: rest) = readString fuel (c :: acc) rest := by
  rw [readString.eq_def]
  dsimp only
  rw [if_neg quote, if_neg backslash, if_neg visible]

/-- What stands for one character in a string is read back as that character. -/
theorem readString_escapeChar (c : Char) :
    readString (fuel + 1) acc (escapeChar c ++ rest) = readString fuel (c :: acc) rest := by
  have numbered {n : Nat} (h : (c.toNat == n) = true) : c = Char.ofNat n := by
    rw [← eq_of_beq h, Char.ofNat_toNat]
  rw [escapeChar]
  split_ifs with quote backslash newline carriage tab backspace feed low control
  · rw [eq_of_beq quote]
    rfl
  · rw [eq_of_beq backslash]
    rfl
  · rw [eq_of_beq newline]
    rfl
  · rw [eq_of_beq carriage]
    rfl
  · rw [eq_of_beq tab]
    rfl
  · rw [numbered backspace]
    rfl
  · rw [numbered feed]
    rfl
  · have back := readEscaped_control c.toNat (by omega) rest
    rw [if_pos low, Char.ofNat_toNat] at back
    exact readString_escaped back
  · have back := readEscaped_control c.toNat control rest
    rw [if_neg low, Char.ofNat_toNat] at back
    exact readString_escaped back
  · exact readString_visible quote backslash control

theorem readString_end (fuel : Nat) (acc rest : List Char) :
    readString (fuel + 1) acc ('"' :: rest) = some (String.ofList acc.reverse, rest) := rfl

/-- A string that was written is read back, up to the quote that ends it. -/
theorem readString_chars (cs : List Char) (enough : cs.length < fuel) :
    readString fuel acc (cs.flatMap escapeChar ++ '"' :: rest) =
      some (String.ofList (acc.reverse ++ cs), rest) := by
  induction cs generalizing fuel acc with
  | nil =>
    obtain ⟨fuel, rfl⟩ := Nat.exists_eq_succ_of_ne_zero (Nat.ne_of_gt enough)
    rw [List.flatMap_nil, List.nil_append, List.append_nil, readString_end]
  | cons c cs ih =>
    rw [List.length_cons] at enough
    obtain ⟨fuel, rfl⟩ := Nat.exists_eq_succ_of_ne_zero (Nat.ne_of_gt (by omega : 0 < fuel))
    rw [List.flatMap_cons, List.append_assoc, readString_escapeChar, ih (by omega),
      List.reverse_cons, List.append_assoc, List.singleton_append]

theorem length_le_escaped (cs : List Char) : cs.length ≤ (cs.flatMap escapeChar).length := by
  have pieces : ∀ c, 1 ≤ (escapeChar c).length := by
    intro c
    unfold escapeChar
    grind
  induction cs with
  | nil => simp
  | cons c cs ih =>
    have here := pieces c
    rw [List.flatMap_cons, List.length_append, List.length_cons]
    omega

/-- A written string without its opening quote is read back. -/
theorem readString_quoted {text : Nat} (s : String) (fits : (quotedChars s).length ≤ text) :
    readString text [] ((quotedChars s).tail ++ rest) = some (s, rest) := by
  have short := length_le_escaped s.toList
  have size : (quotedChars s).length = (s.toList.flatMap escapeChar).length + 2 := by
    simp [quotedChars]
  have enough : s.toList.length < text := by omega
  rw [quotedChars, List.tail_cons, List.append_assoc, List.singleton_append,
    readString_chars s.toList enough, List.reverse_nil, List.nil_append, String.ofList_toList]

end Strings

section Values

variable {fuel text : Nat} {rest cs : List Char} {v w : Value}

/-- Whether a text begins with something that is neither blank nor the end of an array. -/
def Opens (cs : List Char) : Prop :=
  ∃ c cs', cs = c :: cs' ∧ c ∉ [' ', '\t', '\n', '\r', ']']

theorem Opens.skipBlanks (h : Opens cs) (rest : List Char) :
    skipBlanks (cs ++ rest) = cs ++ rest := by
  obtain ⟨c, cs', rfl, hc⟩ := h
  simp only [List.mem_cons, List.not_mem_nil, or_false, not_or] at hc
  simp [Json.skipBlanks, hc]

/-- Whether a value, once written, is read back as another one, which may be the same. -/
structure Reads (v w : Value) : Prop where
  opens : Opens v.chars
  back : ∀ fuel text rest, v.chars.length ≤ fuel → v.chars.length ≤ text →
    readValue text fuel (v.chars ++ rest) = some (w, rest)

/-- A text that begins with something takes fuel to read. -/
theorem Reads.of_succ (opens : Opens v.chars)
    (back : ∀ fuel text rest, v.chars.length ≤ fuel + 1 → v.chars.length ≤ text →
      readValue text (fuel + 1) (v.chars ++ rest) = some (w, rest)) : Reads v w where
  opens := opens
  back fuel text rest enough fits := by
    obtain ⟨c, cs, hv, -⟩ := opens
    have some_fuel : fuel ≠ 0 := by
      rw [hv, List.length_cons] at enough
      omega
    obtain ⟨fuel, rfl⟩ := Nat.exists_eq_succ_of_ne_zero some_fuel
    exact back fuel text rest enough fits

theorem reads_bool : (b : Bool) → Reads (.bool b) (.bool b)
  | true => .of_succ ⟨'t', ['r', 'u', 'e'], rfl, by decide⟩ fun _ _ _ _ _ => rfl
  | false => .of_succ ⟨'f', ['a', 'l', 's', 'e'], rfl, by decide⟩ fun _ _ _ _ _ => rfl

theorem quotedChars_eq (s : String) : quotedChars s = '"' :: (quotedChars s).tail := rfl

theorem reads_string (s : String) : Reads (.string s) (.string s) := by
  apply Reads.of_succ ⟨'"', (quotedChars s).tail, rfl, by decide⟩
  intro fuel text rest _ fits
  have step (cs : List Char) : readValue text (fuel + 1) ('"' :: cs) =
    (readString text [] cs).map fun read => (.string read.1, read.2) := rfl
  rw [Value.chars, quotedChars_eq, List.cons_append, step, readString_quoted s fits]
  rfl

theorem itemChars_next (v : Value) (items : List Value) :
    itemChars false (v :: items) = ',' :: itemChars true (v :: items) := rfl

theorem itemChars_first (v : Value) (items : List Value) :
    itemChars true (v :: items) = v.chars ++ itemChars false items := rfl

/-- The items of an array are read back in order. -/
theorem readItems_chars {items acc : List Value} (each : ∀ w ∈ v :: items, Reads w w)
    (enough : (itemChars true (v :: items)).length < fuel)
    (fits : (itemChars true (v :: items)).length ≤ text) :
    readItems text fuel acc (itemChars true (v :: items) ++ ']' :: rest) =
      some (.array (acc.reverse ++ v :: items), rest) := by
  induction items generalizing v acc fuel with
  | nil =>
    obtain ⟨fuel, rfl⟩ := Nat.exists_eq_succ_of_ne_zero (Nat.ne_zero_of_lt enough)
    have alone : itemChars true [v] = v.chars := List.append_nil _
    rw [alone] at enough fits ⊢
    have first := (each v List.mem_cons_self).back fuel text (']' :: rest) (by omega) fits
    rw [readItems, first, ← List.reverse_cons]
    rfl
  | cons u items ih =>
    obtain ⟨fuel, rfl⟩ := Nat.exists_eq_succ_of_ne_zero (Nat.ne_zero_of_lt enough)
    have first := each v List.mem_cons_self
    have others : ∀ w ∈ u :: items, Reads w w := fun w hw => each w (List.mem_cons_of_mem _ hw)
    rw [itemChars_first, itemChars_next, List.length_append, List.length_cons] at enough fits
    have later : readItems text fuel (v :: acc) (itemChars true (u :: items) ++ ']' :: rest) =
        some (.array ((v :: acc).reverse ++ u :: items), rest) :=
      ih others (by omega) (by omega)
    rw [List.reverse_cons, List.append_assoc, List.singleton_append] at later
    rw [itemChars_first, List.append_assoc, readItems, first.back fuel text _ (by omega) (by omega)]
    exact later

/-- What opens after a bracket is the first item of an array. -/
theorem readValue_open (opens : Opens cs) (rest : List Char) :
    readValue text (fuel + 1) ('[' :: (cs ++ rest)) = readItems text fuel [] (cs ++ rest) := by
  have bracket : skipBlanks ('[' :: (cs ++ rest)) = '[' :: (cs ++ rest) := rfl
  have inside := opens.skipBlanks rest
  obtain ⟨c, cs, rfl, other⟩ := opens
  have open_ended : c ≠ ']' := fun e => other (by simp [e])
  rw [List.cons_append] at bracket inside ⊢
  rw [readValue.eq_def]
  simp only [bracket, inside]
  split
  · next closed => exact absurd (List.cons.inj closed).1 open_ended
  · rfl

theorem reads_array {items : List Value} (each : ∀ w ∈ items, Reads w w) :
    Reads (.array items) (.array items) := by
  apply Reads.of_succ ⟨'[', itemChars true items ++ [']'], rfl, by decide⟩
  intro fuel text rest enough fits
  rw [Value.chars] at enough fits
  rw [Value.chars, List.cons_append, List.append_assoc, List.singleton_append]
  cases items with
  | nil => rfl
  | cons v items =>
    simp only [List.length_cons, List.length_append, List.length_nil] at enough fits
    have whole : readItems text fuel [] (itemChars true (v :: items) ++ ']' :: rest) =
        some (.array (v :: items), rest) :=
      readItems_chars each (by omega) (by omega)
    have first := (each v List.mem_cons_self).opens
    rw [← whole, itemChars_first, List.append_assoc]
    exact readValue_open first _

theorem memberChars_next (member : String × Value) (members : List (String × Value)) :
    memberChars false (member :: members) = ',' :: memberChars true (member :: members) := by
  simp [memberChars]

theorem memberChars_first (name : String) (v : Value) (members : List (String × Value)) :
    memberChars true ((name, v) :: members) =
      quotedChars name ++ ':' :: (v.chars ++ memberChars false members) := by
  simp [memberChars]

section Member

variable {name : String} {acc : List (String × Value)}

/-- The name of the last member is read back, and then its value. -/
theorem readMembers_last (reads : Reads v v) (short : (quotedChars name).length ≤ text)
    (enough : v.chars.length ≤ fuel) (fits : v.chars.length ≤ text) :
    readMembers text (fuel + 1) acc (quotedChars name ++ ':' :: (v.chars ++ '\x7d' :: rest)) =
      some (.ofMembers ((name, v) :: acc).reverse, rest) := by
  have quote (cs : List Char) : skipBlanks ('"' :: cs) = '"' :: cs := rfl
  have colon (cs : List Char) : skipBlanks (':' :: cs) = ':' :: cs := rfl
  have closing (cs : List Char) : skipBlanks ('\x7d' :: cs) = '\x7d' :: cs := rfl
  rw [readMembers.eq_def, quotedChars_eq, List.cons_append]
  simp only [quote, readString_quoted name short, colon, reads.back fuel text _ enough fits,
    closing]

/-- So are those of another one, and the members after the comma come next. -/
theorem readMembers_next (reads : Reads v v) (short : (quotedChars name).length ≤ text)
    (enough : v.chars.length ≤ fuel) (fits : v.chars.length ≤ text) :
    readMembers text (fuel + 1) acc (quotedChars name ++ ':' :: (v.chars ++ ',' :: rest)) =
      readMembers text fuel ((name, v) :: acc) rest := by
  have quote (cs : List Char) : skipBlanks ('"' :: cs) = '"' :: cs := rfl
  have colon (cs : List Char) : skipBlanks (':' :: cs) = ':' :: cs := rfl
  have comma (cs : List Char) : skipBlanks (',' :: cs) = ',' :: cs := rfl
  rw [readMembers.eq_def, quotedChars_eq, List.cons_append]
  simp only [quote, readString_quoted name short, colon, reads.back fuel text _ enough fits, comma]

end Member

/-- The members of an object are read back in order; then the object is made of them. -/
theorem readMembers_chars {name : String} {members acc : List (String × Value)}
    (each : ∀ m ∈ (name, v) :: members, Reads m.2 m.2)
    (enough : (memberChars true ((name, v) :: members)).length < fuel)
    (fits : (memberChars true ((name, v) :: members)).length ≤ text) :
    readMembers text fuel acc (memberChars true ((name, v) :: members) ++ '\x7d' :: rest) =
      some (.ofMembers (acc.reverse ++ (name, v) :: members), rest) := by
  induction members generalizing name v acc fuel with
  | nil =>
    obtain ⟨fuel, rfl⟩ := Nat.exists_eq_succ_of_ne_zero (Nat.ne_zero_of_lt enough)
    have first : Reads v v := each (name, v) List.mem_cons_self
    rw [memberChars_first, List.length_append, List.length_cons, List.length_append] at enough fits
    rw [memberChars_first, List.append_assoc, List.cons_append, List.append_assoc,
      ← List.reverse_cons]
    exact readMembers_last first (by omega) (by omega) (by omega)
  | cons member members ih =>
    obtain ⟨fuel, rfl⟩ := Nat.exists_eq_succ_of_ne_zero (Nat.ne_zero_of_lt enough)
    obtain ⟨next, w⟩ := member
    have first : Reads v v := each (name, v) List.mem_cons_self
    have others : ∀ m ∈ (next, w) :: members, Reads m.2 m.2 :=
      fun m hm => each m (List.mem_cons_of_mem _ hm)
    rw [memberChars_first, memberChars_next, List.length_append, List.length_cons,
      List.length_append, List.length_cons] at enough fits
    have later : readMembers text fuel ((name, v) :: acc)
          (memberChars true ((next, w) :: members) ++ '\x7d' :: rest) =
        some (.ofMembers (((name, v) :: acc).reverse ++ (next, w) :: members), rest) :=
      ih others (by omega) (by omega)
    rw [List.reverse_cons, List.append_assoc, List.singleton_append] at later
    rw [memberChars_first, memberChars_next, List.append_assoc, List.cons_append, List.append_assoc,
      List.cons_append, readMembers_next first (by omega) (by omega) (by omega)]
    exact later

theorem reads_object {members : List (String × Value)} (each : ∀ m ∈ members, Reads m.2 m.2) :
    Reads (.object members) (.ofMembers members) := by
  apply Reads.of_succ ⟨'\x7b', memberChars true members ++ ['\x7d'], rfl, by decide⟩
  intro fuel text rest enough fits
  rw [Value.chars] at enough fits
  rw [Value.chars, List.cons_append, List.append_assoc, List.singleton_append]
  cases members with
  | nil => rfl
  | cons member members =>
    obtain ⟨name, v⟩ := member
    simp only [List.length_cons, List.length_append, List.length_nil] at enough fits
    have whole : readMembers text fuel []
          (memberChars true ((name, v) :: members) ++ '\x7d' :: rest) =
        some (.ofMembers ((name, v) :: members), rest) :=
      readMembers_chars each (by omega) (by omega)
    rw [← whole, memberChars_first, quotedChars_eq]
    rfl

/-- The text of a value is read back as a whole. -/
theorem Reads.parse (h : Reads v w) : parse v.text = some w := by
  have whole := h.back (v.chars.length + 1) (v.chars.length + 1) [] (by omega) (by omega)
  rw [List.append_nil] at whole
  rw [Json.parse, toList_text]
  simp only [whole]
  rfl

end Values

end MessageBus.Json
