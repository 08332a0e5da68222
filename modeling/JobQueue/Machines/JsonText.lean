import Mathlib.Data.Nat.Notation

/-!
# JSON texts and their compaction

The scanner of Go's `encoding/json` reads a text byte by byte and tells which bytes
are insignificant space. Compaction for `Marshal` drops these and escapes what is
special in HTML or JavaScript. It leaves exactly those texts as they are in which
it finds nothing to do. A string survives `Marshal` and `Unmarshal` exactly if it is
valid UTF-8.
-/

namespace JobQueue.JsonText

/-- The bytes of a Go string or byte slice. -/
abbrev Bytes := List UInt8

/-- The byte of an ASCII character. -/
def byte (c : Char) : UInt8 := c.toNat.toUInt8

/-- The object or array around the current value. -/
inductive ParseState where
  | objectKey
  | objectValue
  | arrayValue

/-- The step functions of the scanner. -/
inductive StepState where
  | beginValue
  | beginValueOrEmpty
  | beginString
  | beginStringOrEmpty
  | endValue
  | endTop
  | inString
  | inStringEsc
  | inStringEscU (digits : Nat)
  | neg
  | digits
  | zero
  | dot
  | fraction
  | exponent
  | exponentSign
  | exponentDigits
  | literal (rest : List UInt8)

/-- The scanner between two bytes. -/
structure Scanner where
  step : StepState := .beginValue
  parseState : List ParseState := []

/-- The deepest nesting that is read. -/
def maxNestingDepth : Nat := 10000

/-- Space that JSON permits between tokens. -/
def isSpace (c : UInt8) : Bool :=
  c == byte ' ' || c == byte '\t' || c == byte '\r' || c == byte '\n'

/-- A decimal digit. -/
def isDigit (c : UInt8) : Bool := byte '0' ≤ c && c ≤ byte '9'

/-- A hexadecimal digit of either case. -/
def isHexDigit (c : UInt8) : Bool :=
  isDigit c || byte 'a' ≤ c && c ≤ byte 'f' || byte 'A' ≤ c && c ≤ byte 'F'

/-- The letter in front of an exponent. -/
def isExponent (c : UInt8) : Bool := c == byte 'e' || c == byte 'E'

namespace Scanner

variable (scanner : Scanner)

/-- Continue with a significant byte. -/
def enter (step : StepState) : Option (Scanner × Bool) :=
  some ({ scanner with step := step }, false)

/-- Pass over an insignificant byte. -/
def skip : Option (Scanner × Bool) := some (scanner, true)

/-- Enter an object or an array, unless it is nested too deep. -/
def pushParseState (state : ParseState) (step : StepState) : Option (Scanner × Bool) :=
  if scanner.parseState.length + 1 ≤ maxNestingDepth then
    some (⟨step, state :: scanner.parseState⟩, false)
  else none

/-- Leave an object or an array. -/
def popParseState (outer : List ParseState) : Option (Scanner × Bool) :=
  some (⟨if outer.isEmpty then .endTop else .endValue, outer⟩, false)

/-- After a value, a comma, a colon or a closing bracket. -/
def stateEndValue (c : UInt8) : Option (Scanner × Bool) :=
  match scanner.parseState with
  | [] => if isSpace c then skip ⟨.endTop, []⟩ else none
  | state :: outer =>
    if isSpace c then skip { scanner with step := .endValue }
    else match state with
      | .objectKey =>
        if c = byte ':' then enter ⟨.endValue, .objectValue :: outer⟩ .beginValue
        else none
      | .objectValue =>
        if c = byte ',' then enter ⟨.endValue, .objectKey :: outer⟩ .beginString
        else if c = byte '\x7d' then popParseState outer
        else none
      | .arrayValue =>
        if c = byte ',' then scanner.enter .beginValue
        else if c = byte ']' then popParseState outer
        else none

/-- The first byte of a value. -/
def stateBeginValue (c : UInt8) : Option (Scanner × Bool) :=
  if isSpace c then scanner.skip
  else if c = byte '\x7b' then
    scanner.pushParseState .objectKey .beginStringOrEmpty
  else if c = byte '[' then scanner.pushParseState .arrayValue .beginValueOrEmpty
  else if c = byte '"' then scanner.enter .inString
  else if c = byte '-' then scanner.enter .neg
  else if c = byte '0' then scanner.enter .zero
  else if c = byte 't' then scanner.enter (.literal [byte 'r', byte 'u', byte 'e'])
  else if c = byte 'f' then
    scanner.enter (.literal [byte 'a', byte 'l', byte 's', byte 'e'])
  else if c = byte 'n' then scanner.enter (.literal [byte 'u', byte 'l', byte 'l'])
  else if isDigit c then scanner.enter .digits
  else none

/-- The first byte of an object key. -/
def stateBeginString (c : UInt8) : Option (Scanner × Bool) :=
  if isSpace c then scanner.skip
  else if c = byte '"' then scanner.enter .inString
  else none

/-- Read one byte: the next scanner and whether the byte is insignificant, or
nothing at a syntax error. -/
def next (c : UInt8) : Option (Scanner × Bool) :=
  match scanner.step with
  | .beginValue => scanner.stateBeginValue c
  | .beginValueOrEmpty =>
    if isSpace c then scanner.skip
    else if c = byte ']' then scanner.stateEndValue c
    else scanner.stateBeginValue c
  | .beginString => scanner.stateBeginString c
  | .beginStringOrEmpty =>
    if isSpace c then scanner.skip
    else if c = byte '\x7d' then
      stateEndValue ⟨.endValue, .objectValue :: scanner.parseState.tail⟩ c
    else scanner.stateBeginString c
  | .endValue => scanner.stateEndValue c
  | .endTop => if isSpace c then scanner.skip else none
  | .inString =>
    if c = byte '"' then scanner.enter .endValue
    else if c = byte '\\' then scanner.enter .inStringEsc
    else if c < 0x20 then none
    else scanner.enter .inString
  | .inStringEsc =>
    if c ∈ ['b', 'f', 'n', 'r', 't', '\\', '/', '"'].map byte then
      scanner.enter .inString
    else if c = byte 'u' then scanner.enter (.inStringEscU 4)
    else none
  | .inStringEscU digits =>
    if isHexDigit c then
      scanner.enter (if digits ≤ 1 then .inString else .inStringEscU (digits - 1))
    else none
  | .neg =>
    if c = byte '0' then scanner.enter .zero
    else if isDigit c then scanner.enter .digits
    else none
  | .digits =>
    if isDigit c then scanner.enter .digits
    else if c = byte '.' then scanner.enter .dot
    else if isExponent c then scanner.enter .exponent
    else scanner.stateEndValue c
  | .zero =>
    if c = byte '.' then scanner.enter .dot
    else if isExponent c then scanner.enter .exponent
    else scanner.stateEndValue c
  | .dot => if isDigit c then scanner.enter .fraction else none
  | .fraction =>
    if isDigit c then scanner.enter .fraction
    else if isExponent c then scanner.enter .exponent
    else scanner.stateEndValue c
  | .exponent =>
    if c = byte '+' ∨ c = byte '-' then scanner.enter .exponentSign
    else if isDigit c then scanner.enter .exponentDigits
    else none
  | .exponentSign => if isDigit c then scanner.enter .exponentDigits else none
  | .exponentDigits =>
    if isDigit c then scanner.enter .exponentDigits else scanner.stateEndValue c
  | .literal [] => scanner.stateEndValue c
  | .literal (expected :: rest) =>
    if c = expected then
      scanner.enter (if rest.isEmpty then .endValue else .literal rest)
    else none

/-- The text may end here. -/
def eof : Bool :=
  match scanner.step, scanner.next (byte ' ') with
  | .endTop, _ => true
  | _, some (⟨.endTop, _⟩, _) => true
  | _, _ => false

end Scanner

/-- The text is valid JSON. -/
def valid : Scanner -> Bytes -> Bool
  | scanner, [] => scanner.eof
  | scanner, c :: rest =>
    match scanner.next c with
    | none => false
    | some (next, _) => valid next rest

/-- A lower-case hexadecimal digit. -/
def hex (digit : UInt8) : UInt8 :=
  if digit < 10 then byte '0' + digit else byte 'a' + (digit - 10)

/-- The escape written for a byte, and how many of the bytes after it the escape
stands for. -/
def escaped (c : UInt8) (rest : Bytes) : Option (Bytes × Nat) :=
  if c = byte '<' ∨ c = byte '>' ∨ c = byte '&' then
    some ([byte '\\', byte 'u', byte '0', byte '0', hex (c >>> 4), hex (c &&& 0xF)], 0)
  else match c, rest with
    | 0xE2, 0x80 :: 0xA8 :: _ => some (['\\', 'u', '2', '0', '2', '8'].map byte, 2)
    | 0xE2, 0x80 :: 0xA9 :: _ => some (['\\', 'u', '2', '0', '2', '9'].map byte, 2)
    | _, _ => none

/-- Drop insignificant bytes and escape; bytes an escape stands for are hidden. -/
def appendCompact : Scanner -> Nat -> Bytes -> Option Bytes
  | scanner, _, [] => if scanner.eof then some [] else none
  | scanner, hidden, c :: rest =>
    match scanner.next c with
    | none => none
    | some (next, insignificant) =>
      if 0 < hidden then appendCompact next (hidden - 1) rest
      else match escaped c rest with
        | some (text, hidden) => (appendCompact next hidden rest).map (text ++ ·)
        | none => (appendCompact next 0 rest).map fun out => if insignificant then out else c :: out

/-- Compaction finds nothing to drop or to escape. -/
def Compact : Scanner -> Bytes -> Prop
  | _, [] => True
  | scanner, c :: rest =>
    escaped c rest = none ∧ match scanner.next c with
      | none => False
      | some (next, insignificant) => insignificant = false ∧ Compact next rest

/-! ### What compaction changes -/

section

variable {scanner next : Scanner}

/-- Compaction succeeds on valid texts only. -/
theorem appendCompact_isSome (hidden : Nat) :
    (appendCompact scanner hidden text).isSome = valid scanner text := by
  induction text generalizing scanner hidden with
  | nil =>
    rw [appendCompact, valid]
    cases scanner.eof <;> rfl
  | cons c rest ih =>
    rw [appendCompact, valid]
    cases scanner.next c with
    | none => rfl
    | some result =>
      dsimp only
      split
      · exact ih _
      · split
        · rw [Option.isSome_map, ih]
        · rw [Option.isSome_map, ih]

/-- Between values only space is insignificant. -/
theorem Scanner.stateEndValue_significant (visible : isSpace c = false) :
    scanner.stateEndValue c ≠ some (next, true) := by
  simp only [stateEndValue, visible, Bool.false_eq_true, if_false, enter, popParseState]
  repeat' split
  all_goals simp

/-- In front of a value only space is insignificant. -/
theorem Scanner.stateBeginValue_significant (visible : isSpace c = false) :
    scanner.stateBeginValue c ≠ some (next, true) := by
  simp only [stateBeginValue, visible, Bool.false_eq_true, if_false, enter, pushParseState]
  repeat' split
  all_goals simp

/-- Only space is insignificant. -/
theorem Scanner.next_significant (visible : isSpace c = false) :
    scanner.next c ≠ some (next, true) := by
  have ended (scanner : Scanner) := @stateEndValue_significant scanner next c visible
  have began := @stateBeginValue_significant scanner next c visible
  simp only [Scanner.next, stateBeginString, visible, Bool.false_eq_true, if_false, enter]
  repeat' split
  all_goals simp [ended, began]

variable {hidden : Nat}

/-- The escapes have no space, and start differently than what they replace. -/
theorem escaped_spec (replaced : escaped c rest = some (escape, hidden)) :
    escape.countP isSpace = 0 ∧ ∀ out, escape ++ out ≠ c :: rest := by
  have backslash (tail out : Bytes) (other : c ≠ byte '\\') :
      byte '\\' :: tail ++ out ≠ c :: rest :=
    fun same => other (List.cons.inj same).1.symm
  unfold escaped at replaced
  split at replaced
  · rename_i special
    rcases special with rfl | rfl | rfl <;> cases replaced
    all_goals exact ⟨by decide, fun out => backslash _ out (by decide)⟩
  · split at replaced <;> cases replaced
    all_goals exact ⟨by decide, fun out => backslash _ out (by decide)⟩

/-- Compaction adds no space. -/
theorem countP_appendCompact (compacted : appendCompact scanner hidden text = some out) :
    out.countP isSpace ≤ text.countP isSpace := by
  induction text generalizing scanner hidden out with
  | nil =>
    rw [appendCompact] at compacted
    split at compacted <;> cases compacted
    exact Nat.le_refl _
  | cons c rest ih =>
    rw [List.countP_cons]
    rw [appendCompact] at compacted
    split at compacted
    · cases compacted
    · split at compacted
      · exact Nat.le_add_right_of_le (ih compacted)
      · split at compacted
        · rename_i replaced
          obtain ⟨shorter, inner, rfl⟩ := Option.map_eq_some_iff.mp compacted
          rw [List.countP_append, (escaped_spec replaced).1, Nat.zero_add]
          exact Nat.le_add_right_of_le (ih inner)
        · obtain ⟨shorter, inner, rfl⟩ := Option.map_eq_some_iff.mp compacted
          have fewer := ih inner
          split
          · omega
          · rw [List.countP_cons]
            omega

/-- Compaction returns a text unchanged exactly if it finds nothing to do. -/
theorem appendCompact_eq_self_iff (compacted : appendCompact scanner 0 text = some out) :
    out = text ↔ Compact scanner text := by
  induction text generalizing scanner out with
  | nil =>
    rw [appendCompact] at compacted
    split at compacted <;> cases compacted
    exact iff_of_true rfl trivial
  | cons c rest ih =>
    rw [appendCompact] at compacted
    rw [Compact]
    split at compacted
    · cases compacted
    · rename_i next insignificant read
      rw [if_neg (Nat.lt_irrefl 0)] at compacted
      cases replaced : escaped c rest with
      | some result =>
        rw [replaced] at compacted
        obtain ⟨shorter, _, rfl⟩ := Option.map_eq_some_iff.mp compacted
        exact iff_of_false ((escaped_spec replaced).2 shorter) (by simp)
      | none =>
        rw [replaced] at compacted
        obtain ⟨shorter, inner, rfl⟩ := Option.map_eq_some_iff.mp compacted
        cases insignificant with
        | false => simp [ih inner]
        | true =>
          have space : isSpace c = true := by
            cases visible : isSpace c with
            | true => rfl
            | false => exact absurd read (Scanner.next_significant visible)
          refine iff_of_false (fun same => ?_) (by simp)
          have fewer := countP_appendCompact inner
          rw [if_pos rfl] at same
          rw [same, List.countP_cons, if_pos space] at fewer
          omega

end

/-! ### Strings -/

/-- How many bytes follow the first byte of a rune, with the bounds of the second:
the tables `first` and `acceptRanges` of `unicode/utf8`. -/
def runeStart (c : UInt8) : Option (Nat × UInt8 × UInt8) :=
  if c < 0x80 then some (0, 0x80, 0xBF)
  else if c < 0xC2 then none
  else if c < 0xE0 then some (1, 0x80, 0xBF)
  else if c = 0xE0 then some (2, 0xA0, 0xBF)
  else if c = 0xED then some (2, 0x80, 0x9F)
  else if c < 0xF0 then some (2, 0x80, 0xBF)
  else if c = 0xF0 then some (3, 0x90, 0xBF)
  else if c < 0xF4 then some (3, 0x80, 0xBF)
  else if c = 0xF4 then some (3, 0x80, 0x8F)
  else none

/-- `utf8.DecodeRune`: how many bytes after the first belong to the rune, or nothing
where no rune is encoded. -/
def decodeRune (c : UInt8) (rest : Bytes) : Option Nat :=
  match runeStart c, rest with
  | none, _ => none
  | some (0, _), _ => some 0
  | some (_ + 1, _), [] => none
  | some (more + 1, low, high), second :: others =>
    if low ≤ second ∧ second ≤ high ∧ more ≤ others.length ∧
        (others.take more).all fun c => 0x80 ≤ c ∧ c ≤ 0xBF then
      some (more + 1)
    else none

/-- `utf8.Valid`, with some bytes of the current rune still to come. -/
def validUTF8 : Nat -> Bytes -> Bool
  | _, [] => true
  | pending + 1, _ :: rest => validUTF8 pending rest
  | 0, c :: rest =>
    match decodeRune c rest with
    | none => false
    | some size => validUTF8 size rest

/-- A string after `Marshal` and `Unmarshal`: each byte that begins no rune has
become U+FFFD. -/
def coerceUTF8 : Nat -> Bytes -> Bytes
  | _, [] => []
  | pending + 1, c :: rest => c :: coerceUTF8 pending rest
  | 0, c :: rest =>
    match decodeRune c rest with
    | none => 0xEF :: 0xBF :: 0xBD :: coerceUTF8 0 rest
    | some size => c :: coerceUTF8 size rest

/-- A string is never shortened. -/
theorem length_le_coerceUTF8 (text : Bytes) : text.length ≤ (coerceUTF8 pending text).length := by
  induction text generalizing pending with
  | nil => simp
  | cons c rest ih =>
    cases pending with
    | succ pending => simpa [coerceUTF8] using ih
    | zero =>
      rw [coerceUTF8]
      split
      · have := @ih 0
        simp only [List.length_cons]
        omega
      · simpa using ih

/-- A string comes back as it was exactly if it is valid UTF-8. -/
theorem coerceUTF8_eq_self_iff (text : Bytes) :
    coerceUTF8 pending text = text ↔ validUTF8 pending text = true := by
  induction text generalizing pending with
  | nil => simp [coerceUTF8, validUTF8]
  | cons c rest ih =>
    cases pending with
    | succ pending => simp [coerceUTF8, validUTF8, ih]
    | zero =>
      rw [coerceUTF8, validUTF8]
      split
      · refine iff_of_false (fun same => ?_) (by simp)
        -- the replacement is longer than the byte
        have longer := congrArg List.length same
        have := @length_le_coerceUTF8 0 rest
        simp only [List.length_cons] at longer
        omega
      · simp [ih]

/-- The empty string is the only one that becomes empty. -/
theorem coerceUTF8_ne_nil (present : text ≠ []) : coerceUTF8 0 text ≠ [] := by
  intro empty
  have shorter := @length_le_coerceUTF8 0 text
  rw [empty, List.length_nil, Nat.le_zero, List.length_eq_zero_iff] at shorter
  exact present shorter

end JobQueue.JsonText
