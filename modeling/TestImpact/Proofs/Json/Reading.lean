import TestImpact.CallGraph.Json
import TestImpact.Proofs.Text.Utf8

/-
  Reading JSON texts.

  The values read here are texts, arrays and objects. Numbers and the words
  `null`, `true` and `false` are left out: a text with one of them has no value
  here. Blanks between tokens do not count. A character of a text stands for
  itself, or is escaped by a letter or by its UTF-16 units, of which two make a
  character outside of the first plane; a unit that is only half of a character
  is refused.

  A text is cut into tokens first (`tokens`), then values are read from them
  (`value`). `Lexes` ties a piece of a text to the tokens that it adds, whatever
  comes behind it. What is proved:
    1. `Lexes.append`, `Lexes.joined`: pieces of a text give their tokens one
       after the other.
    2. `lexes_jsonString`, `textOf?_jsonChar`: a JSON string is one token, from
       which its text is read back, for every text.
    3. `items_texts`, `members_entries`: arrays of texts, and objects of such
       arrays, are read from their tokens.
-/

namespace TestImpact

/-- A JSON value without numbers and words. Members stand in the order of the text. -/
inductive JsonValue where
  | text (s : String)
  | array (items : List JsonValue)
  | object (members : List (String × JsonValue))

namespace JsonValue

/-! ## Tokens -/

/-- A piece of a JSON text. Quoted characters are kept as they are written. -/
inductive Token where
  | openBrace
  | closeBrace
  | openBracket
  | closeBracket
  | colon
  | comma
  | quoted (raw : List Char)

def markOf? (c : Char) : Option Token :=
  if c = '\x7b' then some .openBrace
  else if c = '\x7d' then some .closeBrace
  else if c = '[' then some .openBracket
  else if c = ']' then some .closeBracket
  else if c = ':' then some .colon
  else if c = ',' then some .comma
  else none

def isBlank (c : Char) : Bool := c == ' ' || c == '\t' || c == '\n' || c == '\r'

/-- Where a cut through a text is: outside of quotes, or behind some characters in quotes, the
last one first, and behind a backslash there or not. -/
inductive Part where
  | outside
  | quoted (passed : List Char)
  | escaped (passed : List Char)

/-- Cuts a text into tokens. Control characters may not stand in quotes. -/
def tokens : Part → List Char → Option (List Token)
  | .outside, [] => some []
  | .outside, c :: cs =>
    if isBlank c then tokens .outside cs
    else if c = '"' then tokens (.quoted []) cs
    else match markOf? c with
      | some mark => (tokens .outside cs).map (mark :: ·)
      | none => none
  | .quoted passed, c :: cs =>
    if c = '"' then (tokens .outside cs).map (.quoted passed.reverse :: ·)
    else if c = '\\' then tokens (.escaped (c :: passed)) cs
    else if c.toNat < 32 then none
    else tokens (.quoted (c :: passed)) cs
  | .escaped passed, c :: cs => tokens (.quoted (c :: passed)) cs
  | _, [] => none

/-! ## Texts -/

/-- The value of a digit of base 16. -/
def hexValue? (c : Char) : Option Nat :=
  if '0' ≤ c ∧ c ≤ '9' then some (c.toNat - 48)
  else if 'a' ≤ c ∧ c ≤ 'f' then some (c.toNat - 87)
  else if 'A' ≤ c ∧ c ≤ 'F' then some (c.toNat - 55)
  else none

/-- The characters that a backslash goes before, and what they stand for with it. -/
def escapes : List (Char × Nat) :=
  [('"', 0x22), ('\\', 0x5c), ('/', 0x2f), ('b', 0x08), ('f', 0x0c), ('n', 0x0a), ('r', 0x0d),
    ('t', 0x09)]

/-- The code that an escaped character stands for. -/
def escapeValue? (c : Char) : Option Nat := (escapes.find? (·.1 = c)).map (·.2)

/-- The code points of quoted characters, those of an escape by units as they are written. -/
def codes : List Char → Option (List Nat)
  | [] => some []
  | '\\' :: 'u' :: a :: b :: c :: d :: cs => do
    let n := 4096 * (← hexValue? a) + 256 * (← hexValue? b) + 16 * (← hexValue? c) + (← hexValue? d)
    return n :: (← codes cs)
  | '\\' :: c :: cs => do return (← escapeValue? c) :: (← codes cs)
  | ['\\'] => none
  | c :: cs => (codes cs).map (c.toNat :: ·)

/-- The first unit of a character that takes two. -/
def isHigh (n : Nat) : Bool := 0xd800 ≤ n && n < 0xdc00

/-- The second unit of a character that takes two. -/
def isLow (n : Nat) : Bool := 0xdc00 ≤ n && n < 0xe000

/-- The characters of code points and units. -/
def characters : List Nat → Option (List Char)
  | [] => some []
  | n :: ns =>
    if isHigh n then
      match ns with
      | m :: ns =>
        if isLow m then
          (characters ns).map (Char.ofNat (0x10000 + 0x400 * (n - 0xd800) + (m - 0xdc00)) :: ·)
        else none
      | [] => none
    else if isLow n then none
    else (characters ns).map (Char.ofNat n :: ·)

/-- The text that quoted characters stand for. -/
def textOf? (raw : List Char) : Option String :=
  ((codes raw).bind characters).map String.ofList

/-! ## Values -/

mutual

/-- Reads a value, nested to a given depth; what is left of the tokens comes with it. -/
def value : Nat → List Token → Option (JsonValue × List Token)
  | 0, _ => none
  | depth + 1, ts =>
    match ts with
    | .quoted raw :: ts => (textOf? raw).map fun s => (text s, ts)
    | .openBracket :: .closeBracket :: ts => some (array [], ts)
    | .openBracket :: ts => (items depth ts).map fun (vs, ts) => (array vs, ts)
    | .openBrace :: .closeBrace :: ts => some (object [], ts)
    | .openBrace :: ts => (members depth ts).map fun (ms, ts) => (object ms, ts)
    | _ => none

/-- Reads values up to the end of an array. -/
def items : Nat → List Token → Option (List JsonValue × List Token)
  | 0, _ => none
  | depth + 1, ts => do
    let (v, ts) ← value depth ts
    match ts with
    | .closeBracket :: ts => some ([v], ts)
    | .comma :: ts => (items depth ts).map fun (vs, ts) => (v :: vs, ts)
    | _ => none

/-- Reads members up to the end of an object. -/
def members : Nat → List Token → Option (List (String × JsonValue) × List Token)
  | 0, _ => none
  | depth + 1, ts =>
    match ts with
    | .quoted raw :: .colon :: ts => do
      let name ← textOf? raw
      let (v, ts) ← value depth ts
      match ts with
      | .closeBrace :: ts => some ([(name, v)], ts)
      | .comma :: ts => (members depth ts).map fun (ms, ts) => ((name, v) :: ms, ts)
      | _ => none
    | _ => none

end

/-- Reads a JSON text. Values cannot be nested deeper than there are tokens, and each goes two
steps down at most. -/
def read (text : String) : Option JsonValue := do
  let ts ← tokens .outside text.toList
  match ← value (2 * ts.length) ts with
  | (v, []) => some v
  | _ => none

/-! ## Pieces of a text and their tokens -/

/-- A piece of a text, outside of quotes, adds these tokens. -/
def Lexes (cs : List Char) (ts : List Token) : Prop :=
  ∀ rest, tokens .outside (cs ++ rest) = (tokens .outside rest).map (ts ++ ·)

theorem Lexes.append {cs ds : List Char} {ts us : List Token} (hc : Lexes cs ts)
    (hd : Lexes ds us) : Lexes (cs ++ ds) (ts ++ us) := by
  intro rest
  rw [List.append_assoc, hc, hd, Option.map_map]
  congr 1
  funext more
  exact (List.append_assoc ts us more).symm

theorem Lexes.blanks {cs : List Char} (h : ∀ c ∈ cs, isBlank c = true) : Lexes cs [] := by
  intro rest
  induction cs with
  | nil => simp
  | cons c cs ih =>
    rw [List.cons_append, tokens, if_pos (h c List.mem_cons_self)]
    exact ih fun d hd => h d (List.mem_cons_of_mem c hd)

theorem Lexes.mark {c : Char} {t : Token} (hmark : markOf? c = some t) (hblank : isBlank c = false)
    (hquote : c ≠ '"') : Lexes [c] [t] := by
  intro rest
  simp [tokens, hmark, hblank, hquote]

/-- Joined pieces give their tokens, with those of the separator between each two of them. -/
theorem Lexes.joined {sep : String} {between : List Token} (hsep : Lexes sep.toList between)
    {α : Type} {f : α → String} {g : α → List Token} (xs : List α)
    (h : ∀ x ∈ xs, Lexes (f x).toList (g x)) :
    Lexes (Text.joined sep (xs.map f)).toList (between.intercalate (xs.map g)) := by
  induction xs with
  | nil => exact Lexes.blanks (by simp [Text.joined])
  | cons x xs ih =>
    have hx := h x List.mem_cons_self
    have hxs := ih fun y hy => h y (List.mem_cons_of_mem x hy)
    cases xs with
    | nil => simpa [Text.joined] using hx
    | cons y ys =>
      simp only [List.map_cons] at hxs
      simp only [List.map_cons, Text.joined, List.intercalate_cons_cons, String.toList_append]
      exact (hx.append hsep).append hxs

/-! ## Strings -/

open CallGraph (jsonChar jsonUnit jsonString)

/-- A character that stands for itself in quotes. -/
def IsPlain (c : Char) : Prop := c ≠ '"' ∧ c ≠ '\\' ∧ 32 ≤ c.toNat

instance (c : Char) : Decidable (IsPlain c) :=
  inferInstanceAs (Decidable (c ≠ '"' ∧ c ≠ '\\' ∧ 32 ≤ c.toNat))

theorem hexValue?_hexDigit : ∀ n < 16,
    hexValue? (Text.hexDigit n) = some n ∧ IsPlain (Text.hexDigit n) := by
  decide

theorem hexDigits_four (n : Nat) :
    Text.hexDigits 4 n = [Text.hexDigit (n / 4096 % 16), Text.hexDigit (n / 256 % 16),
      Text.hexDigit (n / 16 % 16), Text.hexDigit (n % 16)] := by
  simp [Text.hexDigits, Nat.div_div_eq_div_mul]

theorem tokens_plain {cs : List Char} (h : ∀ c ∈ cs, IsPlain c) (passed rest : List Char) :
    tokens (.quoted passed) (cs ++ rest) = tokens (.quoted (cs.reverse ++ passed)) rest := by
  induction cs generalizing passed with
  | nil => rfl
  | cons c cs ih =>
    obtain ⟨hquote, hslash, hcontrol⟩ := h c List.mem_cons_self
    rw [List.cons_append, tokens, if_neg hquote, if_neg hslash, if_neg (Nat.not_lt.mpr hcontrol),
      ih fun d hd => h d (List.mem_cons_of_mem c hd)]
    simp

theorem tokens_escape (x : Char) (passed rest : List Char) :
    tokens (.quoted passed) ('\\' :: x :: rest)
      = tokens (.quoted (x :: '\\' :: passed)) rest := by
  simp [tokens]

theorem tokens_jsonUnit (n : Nat) (passed rest : List Char) :
    tokens (.quoted passed) (jsonUnit n ++ rest)
      = tokens (.quoted ((jsonUnit n).reverse ++ passed)) rest := by
  have hplain : ∀ c ∈ Text.hexDigits 4 n, IsPlain c := by
    intro c hc
    simp only [hexDigits_four, List.mem_cons, List.not_mem_nil, or_false] at hc
    rcases hc with rfl | rfl | rfl | rfl
    all_goals exact (hexValue?_hexDigit _ (Nat.mod_lt _ (by decide))).2
  rw [jsonUnit, List.cons_append, List.cons_append, tokens_escape, tokens_plain hplain]
  simp

theorem tokens_jsonUnits (ns : List Nat) (passed rest : List Char) :
    tokens (.quoted passed) (ns.flatMap jsonUnit ++ rest)
      = tokens (.quoted ((ns.flatMap jsonUnit).reverse ++ passed)) rest := by
  induction ns generalizing passed with
  | nil => rfl
  | cons n ns ih =>
    rw [List.flatMap_cons, List.append_assoc, tokens_jsonUnit, ih]
    simp

theorem codes_jsonUnit {n : Nat} (h : n < 0x10000) (rest : List Char) :
    codes (jsonUnit n ++ rest) = (codes rest).map (n :: ·) := by
  have hvalue : ∀ m, hexValue? (Text.hexDigit (m % 16)) = some (m % 16) := fun m =>
    (hexValue?_hexDigit _ (Nat.mod_lt m (by decide))).1
  have hsum : 4096 * (n / 4096 % 16) + 256 * (n / 256 % 16) + 16 * (n / 16 % 16) + n % 16 = n := by
    omega
  simp only [jsonUnit, hexDigits_four, List.cons_append, List.nil_append, codes, hvalue,
    Option.bind_eq_bind, Option.bind_some, hsum]
  cases codes rest <;> rfl

theorem codes_jsonUnits {ns : List Nat} (h : ∀ n ∈ ns, n < 0x10000) (rest : List Char) :
    codes (ns.flatMap jsonUnit ++ rest) = (codes rest).map (ns ++ ·) := by
  induction ns with
  | nil => simp
  | cons n ns ih =>
    rw [List.flatMap_cons, List.append_assoc, codes_jsonUnit (h n List.mem_cons_self),
      ih fun m hm => h m (List.mem_cons_of_mem n hm), Option.map_map]
    rfl

theorem codes_escape {x : Char} {n : Nat} (h : escapeValue? x = some n) (rest : List Char) :
    codes ('\\' :: x :: rest) = (codes rest).map (n :: ·) := by
  have hunit : x ≠ 'u' := by
    rintro rfl
    simp [escapeValue?, escapes] at h
  rw [codes]
  · rw [h]
    cases codes rest <;> rfl
  · exact fun _ _ _ _ _ hu _ => hunit hu

theorem codes_plain {c : Char} (h : c ≠ '\\') (rest : List Char) :
    codes (c :: rest) = (codes rest).map (c.toNat :: ·) := by
  rw [codes]
  · exact fun _ _ _ _ _ hc _ => h hc
  · exact fun _ _ hc _ => h hc
  · exact fun hc _ => h hc

/-- The UTF-16 units of a character. -/
def unitsOf (c : Char) : List Nat :=
  if c.toNat < 0x10000 then [c.toNat]
  else [0xd800 + (c.toNat - 0x10000) / 0x400, 0xdc00 + (c.toNat - 0x10000) % 0x400]

/-- The characters that are written by a letter. -/
def letters : List (Char × Char) :=
  [('"', '"'), ('\\', '\\'), ('\n', 'n'), ('\r', 'r'), ('\t', 't'), ('\x0c', 'f'),
    ('\x08', 'b')]

theorem jsonChar_letters : ∀ entry ∈ letters,
    jsonChar entry.1 = ['\\', entry.2] ∧ escapeValue? entry.2 = some entry.1.toNat ∧
      unitsOf entry.1 = [entry.1.toNat] := by
  decide

/-- How a character is written in quotes: by a letter, as it is, or by its units. -/
theorem jsonChar_cases (c : Char) :
    (∃ x, jsonChar c = ['\\', x] ∧ escapeValue? x = some c.toNat ∧ unitsOf c = [c.toNat]) ∨
    (jsonChar c = [c] ∧ IsPlain c ∧ unitsOf c = [c.toNat]) ∨
    (jsonChar c = (unitsOf c).flatMap jsonUnit ∧ ∀ n ∈ unitsOf c, n < 0x10000) := by
  by_cases hletter : ∃ x, (c, x) ∈ letters
  · obtain ⟨x, hx⟩ := hletter
    exact .inl ⟨x, jsonChar_letters _ hx⟩
  simp only [letters, List.mem_cons, Prod.mk.injEq, List.not_mem_nil, or_false, exists_or,
    exists_eq_right, not_or] at hletter
  obtain ⟨hquote, hslash, hfeed, hreturn, htab, hform, hback⟩ := hletter
  simp only [jsonChar, hquote, hslash, hfeed, hreturn, htab, hform, hback, if_false,
    Bool.and_eq_true, decide_eq_true_eq]
  right
  by_cases hascii : 32 ≤ c.toNat ∧ c.toNat < 127
  · refine .inl ⟨if_pos hascii, ⟨hquote, hslash, hascii.1⟩, ?_⟩
    rw [unitsOf, if_pos (by omega)]
  · rw [if_neg hascii]
    right
    by_cases hplane : c.toNat < 0x10000
    · simp [unitsOf, hplane]
    · -- The bound on code points leaves twenty bits, ten for each unit.
      have hbounds := Text.codePoint_bounds c
      simp only [unitsOf, hplane, if_false]
      refine ⟨by simp, fun n hn => ?_⟩
      simp only [List.mem_cons, List.not_mem_nil, or_false] at hn
      omega

theorem tokens_jsonChar (c : Char) (passed rest : List Char) :
    tokens (.quoted passed) (jsonChar c ++ rest)
      = tokens (.quoted ((jsonChar c).reverse ++ passed)) rest := by
  rcases jsonChar_cases c with ⟨x, hc, -, -⟩ | ⟨hc, hplain, -⟩ | ⟨hc, -⟩
  · rw [hc]
    exact tokens_escape x passed rest
  · rw [hc]
    exact tokens_plain (by simpa using hplain) passed rest
  · rw [hc]
    exact tokens_jsonUnits (unitsOf c) passed rest

theorem codes_jsonChar (c : Char) (rest : List Char) :
    codes (jsonChar c ++ rest) = (codes rest).map (unitsOf c ++ ·) := by
  rcases jsonChar_cases c with ⟨x, hc, hvalue, hunits⟩ | ⟨hc, hplain, hunits⟩ | ⟨hc, hsmall⟩
  · rw [hc, hunits]
    exact codes_escape hvalue rest
  · rw [hc, hunits]
    exact codes_plain hplain.2.1 rest
  · rw [hc]
    exact codes_jsonUnits hsmall rest

theorem characters_scalar {n : Nat} (hhigh : isHigh n = false) (hlow : isLow n = false)
    (ns : List Nat) : characters (n :: ns) = (characters ns).map (Char.ofNat n :: ·) := by
  cases ns <;> simp [characters, hhigh, hlow]

/-- The units of a character are no halves of others, and give it back. -/
theorem characters_unitsOf (c : Char) (ns : List Nat) :
    characters (unitsOf c ++ ns) = (characters ns).map (c :: ·) := by
  have hbounds := Text.codePoint_bounds c
  have hchar : Char.ofNat c.toNat = c := Char.ofNat_toNat c
  by_cases hplane : c.toNat < 0x10000
  · -- A code point of the first plane is no surrogate.
    have hhigh : isHigh c.toNat = false := by
      simp only [isHigh, Bool.and_eq_false_iff, decide_eq_false_iff_not]
      omega
    have hlow : isLow c.toNat = false := by
      simp only [isLow, Bool.and_eq_false_iff, decide_eq_false_iff_not]
      omega
    rw [unitsOf, if_pos hplane, List.singleton_append, characters_scalar hhigh hlow, hchar]
  · have hhigh : isHigh (0xd800 + (c.toNat - 0x10000) / 0x400) = true := by
      simp only [isHigh, Bool.and_eq_true, decide_eq_true_eq]
      omega
    have hlow : isLow (0xdc00 + (c.toNat - 0x10000) % 0x400) = true := by
      simp only [isLow, Bool.and_eq_true, decide_eq_true_eq]
      omega
    have hsum : 0x10000 + 0x400 * (0xd800 + (c.toNat - 0x10000) / 0x400 - 0xd800)
        + (0xdc00 + (c.toNat - 0x10000) % 0x400 - 0xdc00) = c.toNat := by
      omega
    rw [unitsOf, if_neg hplane, List.cons_append, List.singleton_append, characters]
    simp only [hhigh, hlow, if_true, hsum, hchar]

theorem textOf?_jsonChar (s : String) : textOf? (s.toList.flatMap jsonChar) = some s := by
  have hcodes : ∀ cs : List Char, codes (cs.flatMap jsonChar) = some (cs.flatMap unitsOf) := by
    intro cs
    induction cs with
    | nil => rfl
    | cons c cs ih => rw [List.flatMap_cons, codes_jsonChar, ih]; rfl
  have hcharacters : ∀ cs : List Char, characters (cs.flatMap unitsOf) = some cs := by
    intro cs
    induction cs with
    | nil => rfl
    | cons c cs ih => rw [List.flatMap_cons, characters_unitsOf, ih]; rfl
  rw [textOf?, hcodes, Option.bind_some, hcharacters, Option.map_some, String.ofList_toList]

def stringToken (s : String) : Token := .quoted (s.toList.flatMap jsonChar)

theorem lexes_jsonString (s : String) : Lexes (jsonString s).toList [stringToken s] := by
  have hquoted : ∀ (cs passed rest : List Char),
      tokens (.quoted passed) (cs.flatMap jsonChar ++ '"' :: rest)
        = (tokens .outside rest).map (.quoted (passed.reverse ++ cs.flatMap jsonChar) :: ·) := by
    intro cs passed rest
    induction cs generalizing passed with
    | nil => simp [tokens]
    | cons c cs ih =>
      rw [List.flatMap_cons, List.append_assoc, tokens_jsonChar, ih]
      simp
  intro rest
  have hopen : (jsonString s).toList ++ rest
      = '"' :: (s.toList.flatMap jsonChar ++ '"' :: rest) := by
    simp [jsonString]
  rw [hopen, tokens]
  simp only [isBlank, hquoted]
  rfl

/-! ## Arrays of texts, and objects of these -/

def itemTokens (ss : List String) : List Token :=
  [Token.comma].intercalate (ss.map fun s => [stringToken s]) ++ [.closeBracket]

def memberTokens (entry : String × List String) : List Token :=
  stringToken entry.1 :: .colon :: .openBracket :: itemTokens entry.2

/-- The tokens of an object of arrays of texts that follow its brace. -/
def entryTokens (entries : List (String × List String)) : List Token :=
  [Token.comma].intercalate (entries.map memberTokens) ++ [.closeBrace]

def entryMember (entry : String × List String) : String × JsonValue :=
  (entry.1, array (entry.2.map text))

theorem value_stringToken (s : String) (depth : Nat) (rest : List Token) :
    value (depth + 1) (stringToken s :: rest) = some (text s, rest) := by
  simp [value, stringToken, textOf?_jsonChar]

section Steps

variable {depth : Nat} {ts more rest : List Token} {v : JsonValue}

theorem items_end (h : value depth ts = some (v, .closeBracket :: rest)) :
    items (depth + 1) ts = some ([v], rest) := by
  simp [items, h]

theorem items_step {vs : List JsonValue} (h : value depth ts = some (v, .comma :: more))
    (hmore : items depth more = some (vs, rest)) :
    items (depth + 1) ts = some (v :: vs, rest) := by
  simp [items, h, hmore]

theorem members_end (name : String) (h : value depth ts = some (v, .closeBrace :: rest)) :
    members (depth + 1) (stringToken name :: .colon :: ts) = some ([(name, v)], rest) := by
  simp [members, stringToken, textOf?_jsonChar, h]

theorem members_step (name : String) {ms : List (String × JsonValue)}
    (h : value depth ts = some (v, .comma :: more))
    (hmore : members depth more = some (ms, rest)) :
    members (depth + 1) (stringToken name :: .colon :: ts) = some ((name, v) :: ms, rest) := by
  simp [members, stringToken, textOf?_jsonChar, h, hmore]

end Steps

theorem itemTokens_cons (s t : String) (ss : List String) :
    itemTokens (s :: t :: ss) = stringToken s :: .comma :: itemTokens (t :: ss) := by
  simp [itemTokens]

theorem entryTokens_cons (entry next : String × List String)
    (entries : List (String × List String)) :
    entryTokens (entry :: next :: entries)
      = memberTokens entry ++ .comma :: entryTokens (next :: entries) := by
  simp [entryTokens]

theorem items_texts {ss : List String} (hne : ss ≠ []) {depth : Nat} (h : ss.length < depth)
    (rest : List Token) : items depth (itemTokens ss ++ rest) = some (ss.map text, rest) := by
  induction ss generalizing depth with
  | nil => exact absurd rfl hne
  | cons s ss ih =>
    rw [List.length_cons] at h
    obtain ⟨depth, rfl⟩ : ∃ d, depth = d + 2 := ⟨depth - 2, by omega⟩
    cases ss with
    | nil => exact items_end (value_stringToken s depth _)
    | cons t ss =>
      rw [itemTokens_cons]
      exact items_step (value_stringToken s depth _) (ih (List.cons_ne_nil t ss) (by omega))

/-- The first token of a list of texts is a text, and so the list is not taken for an empty one. -/
theorem value_texts {ss : List String} (hne : ss ≠ []) {depth : Nat} (h : ss.length + 1 < depth)
    (rest : List Token) :
    value depth (.openBracket :: itemTokens ss ++ rest) = some (array (ss.map text), rest) := by
  obtain ⟨depth, rfl⟩ : ∃ d, depth = d + 1 := ⟨depth - 1, by omega⟩
  have hitems := items_texts hne (show ss.length < depth by omega) rest
  obtain ⟨s, more, rfl⟩ := List.exists_cons_of_ne_nil hne
  obtain ⟨tail, htail⟩ : ∃ tail, itemTokens (s :: more) ++ rest = stringToken s :: tail := by
    cases more with
    | nil => exact ⟨_, rfl⟩
    | cons t more => exact ⟨_, by rw [itemTokens_cons]; rfl⟩
  rw [htail] at hitems
  rw [List.cons_append, htail]
  simp only [stringToken] at hitems
  simp only [value, stringToken, hitems, Option.map_some]

theorem members_entries {entries : List (String × List String)} (hne : entries ≠ [])
    (hfilled : ∀ entry ∈ entries, entry.2 ≠ []) {depth : Nat}
    (h : ∀ entry ∈ entries, entry.2.length + entries.length + 1 < depth) (rest : List Token) :
    members depth (entryTokens entries ++ rest) = some (entries.map entryMember, rest) := by
  induction entries generalizing depth with
  | nil => exact absurd rfl hne
  | cons entry entries ih =>
    have hdepth := h entry List.mem_cons_self
    rw [List.length_cons] at hdepth
    obtain ⟨depth, rfl⟩ : ∃ d, depth = d + 1 := ⟨depth - 1, by omega⟩
    have hvalue := value_texts (hfilled entry List.mem_cons_self)
      (show entry.2.length + 1 < depth by omega)
    cases entries with
    | nil =>
      have hend := members_end entry.1 (hvalue (.closeBrace :: rest))
      simpa [entryTokens, memberTokens, entryMember] using hend
    | cons next entries =>
      have hlong : ∀ other ∈ next :: entries,
          other.2.length + (next :: entries).length + 1 < depth := by
        intro other hother
        have hother := h other (List.mem_cons_of_mem entry hother)
        rw [List.length_cons] at hother
        omega
      have hrest := ih (List.cons_ne_nil next entries)
        (fun other hother => hfilled other (List.mem_cons_of_mem entry hother)) hlong
      have hstep := members_step entry.1 (hvalue _) hrest
      rw [entryTokens_cons]
      simpa [memberTokens, entryMember] using hstep

theorem length_le_intercalate {α : Type} (sep : List α) (pieces : List (List α)) :
    (∀ piece ∈ pieces, piece.length ≤ (sep.intercalate pieces).length) ∧
      ((∀ piece ∈ pieces, piece ≠ []) → pieces.length ≤ (sep.intercalate pieces).length) := by
  induction pieces with
  | nil => simp
  | cons piece pieces ih =>
    cases pieces with
    | nil =>
      refine ⟨by simp, fun hne => ?_⟩
      simpa using Nat.succ_le_of_lt (List.length_pos_iff.mpr (hne piece List.mem_cons_self))
    | cons next pieces =>
      obtain ⟨hlong, hmany⟩ := ih
      rw [List.intercalate_cons_cons]
      refine ⟨fun other hother => ?_, fun hne => ?_⟩
      · rcases List.mem_cons.mp hother with rfl | hother
        · simp
        · have := hlong other hother
          simp at this ⊢
          omega
      · have hpiece := List.length_pos_iff.mpr (hne piece List.mem_cons_self)
        have := hmany fun other hother => hne other (List.mem_cons_of_mem piece hother)
        simp at this hpiece ⊢
        omega

theorem lexes_blank (c : Char) (h : isBlank c = true) : Lexes [c] [] :=
  Lexes.blanks (by simpa using h)

theorem lexes_spaces (n : Nat) : Lexes (List.replicate n ' ') [] :=
  Lexes.blanks fun _ hc => List.eq_of_mem_replicate hc ▸ rfl

theorem lexes_comma : Lexes ",\n".toList [.comma] :=
  (Lexes.mark (c := ',') rfl rfl (by decide)).append (lexes_blank '\n' rfl)

theorem lexes_jsonMember (entry : String × List String) :
    Lexes (CallGraph.jsonMember entry).toList (memberTokens entry) := by
  have hcolon : Lexes ": [\n".toList [.colon, .openBracket] :=
    ((Lexes.mark (c := ':') rfl rfl (by decide)).append (lexes_blank ' ' rfl)).append
      ((Lexes.mark (c := '[') rfl rfl (by decide)).append (lexes_blank '\n' rfl))
  have hclose : Lexes "\n  ]".toList [.closeBracket] :=
    ((lexes_blank '\n' rfl).append (lexes_spaces 2)).append
      (Lexes.mark (c := ']') rfl rfl (by decide))
  have hitems := Lexes.joined lexes_comma entry.2
    (f := fun caller => "    " ++ jsonString caller) (g := fun caller => [stringToken caller])
    fun caller _ => by
      rw [String.toList_append]
      exact (lexes_spaces 4).append (lexes_jsonString caller)
  have hname := (show Lexes "  ".toList [] from lexes_spaces 2).append (lexes_jsonString entry.1)
  have hall := ((hname.append hcolon).append hitems).append hclose
  simpa [CallGraph.jsonMember, memberTokens, itemTokens, String.toList_append] using hall

variable {entries : List (String × List String)}

theorem tokens_jsonObject (hne : entries ≠ []) :
    tokens .outside (CallGraph.jsonObject entries).toList
      = some (.openBrace :: entryTokens entries) := by
  have hopen : Lexes "\x7b\n".toList [.openBrace] :=
    (Lexes.mark (c := '\x7b') rfl rfl (by decide)).append (lexes_blank '\n' rfl)
  have hclose : Lexes "\n\x7d".toList [.closeBrace] :=
    (lexes_blank '\n' rfl).append (Lexes.mark (c := '\x7d') rfl rfl (by decide))
  have hmembers := Lexes.joined lexes_comma entries (f := CallGraph.jsonMember)
    (g := memberTokens) fun entry _ => lexes_jsonMember entry
  have hall := ((hopen.append hmembers).append hclose) []
  rw [List.append_nil, tokens, Option.map_some] at hall
  obtain ⟨entry, more, rfl⟩ := List.exists_cons_of_ne_nil hne
  simpa [CallGraph.jsonObject, entryTokens, String.toList_append] using hall

/-- There are more tokens than members, and more than items in any of them. -/
theorem lt_length_entryTokens (entries : List (String × List String)) :
    entries.length < (entryTokens entries).length ∧
      ∀ entry ∈ entries, entry.2.length + 2 < (entryTokens entries).length := by
  obtain ⟨hlong, hmany⟩ := length_le_intercalate [Token.comma] (entries.map memberTokens)
  constructor
  · have hmembers := hmany fun piece hpiece => by
      obtain ⟨entry, -, rfl⟩ := List.mem_map.mp hpiece
      exact List.cons_ne_nil _ _
    rw [List.length_map] at hmembers
    rw [entryTokens, List.length_append, List.length_singleton]
    omega
  · intro entry hentry
    have hmember := hlong _ (List.mem_map_of_mem hentry)
    have hitems := (length_le_intercalate [Token.comma]
      (entry.2.map fun s => [stringToken s])).2 (by simp)
    simp only [memberTokens, itemTokens, List.length_cons, List.length_append, List.length_nil]
      at hmember
    rw [List.length_map] at hitems
    rw [entryTokens, List.length_append, List.length_singleton]
    omega

/-- The first token of an object with members is a name, and so it is not taken for an empty
one. -/
theorem value_entries (hne : entries ≠ []) (hfilled : ∀ entry ∈ entries, entry.2 ≠ [])
    {depth : Nat} (h : ∀ entry ∈ entries, entry.2.length + entries.length + 1 < depth) :
    value (depth + 1) (.openBrace :: entryTokens entries)
      = some (object (entries.map entryMember), []) := by
  have hread := members_entries hne hfilled h []
  obtain ⟨entry, more, rfl⟩ := List.exists_cons_of_ne_nil hne
  obtain ⟨tail, htail⟩ : ∃ tail, entryTokens (entry :: more) = stringToken entry.1 :: tail := by
    cases more with
    | nil => exact ⟨_, rfl⟩
    | cons next more => exact ⟨_, by rw [entryTokens_cons]; rfl⟩
  rw [List.append_nil, htail] at hread
  rw [htail]
  simp only [stringToken] at hread
  simp only [value, stringToken, hread, Option.map_some]

/-- An object of arrays of texts is read back, if no array is empty. -/
theorem read_jsonObject (hfilled : ∀ entry ∈ entries, entry.2 ≠ []) :
    read (CallGraph.jsonObject entries) = some (object (entries.map entryMember)) := by
  by_cases hne : entries = []
  · rw [hne]
    rfl
  obtain ⟨hentries, hitems⟩ := lt_length_entryTokens entries
  have hlength : 2 * (Token.openBrace :: entryTokens entries).length
      = 2 * (entryTokens entries).length + 1 + 1 := by
    rw [List.length_cons]
    omega
  -- Reading begins at twice the number of tokens, which is enough for the longest member behind
  -- all others.
  have hdeep : ∀ entry ∈ entries,
      entry.2.length + entries.length + 1 < 2 * (entryTokens entries).length + 1 := by
    intro entry hentry
    have := hitems entry hentry
    omega
  have hvalue := value_entries hne hfilled hdeep
  simp only [read, tokens_jsonObject hne, Option.bind_eq_bind, Option.bind_some, hlength, hvalue]

end JsonValue

end TestImpact
