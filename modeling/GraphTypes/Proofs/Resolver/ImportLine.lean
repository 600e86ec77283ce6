import Mathlib.Data.List.Infix
import Mathlib.Data.Option.Basic
import GraphTypes.Proofs.Resolver.Imports

/-!
# Reading import lines

A reader of lines such as `import { A, B as C } from './models';`, with the names between the braces
and the path in a single-quoted literal, where a backslash escapes. Names are told apart by commas
and blanks, which no identifier holds, so they are read as they were written
(`readSpecifiers?_line`). A path that stands in the line as it is, is read as itself exactly if
nothing in it has a meaning of its own in a literal (`readModule?_iff`).
-/

namespace GraphTypes.TypeScript

open Config

/-! ### Literals -/

/-- What a backslash stands for together with the character behind it. A line break is left out;
characters given by number are not read. -/
def unescape? : Char → Option (List Char)
  | 'b' => some ['\x08']
  | 't' => some ['\t']
  | 'n' => some ['\n']
  | 'v' => some ['\x0b']
  | 'f' => some ['\x0c']
  | 'r' => some ['\r']
  | '0' => some ['\x00']
  | '\n' | '\r' => some []
  | 'x' | 'u' => none
  | c => some [c]

/-- Reads a literal from behind its opening quote: its text, and the code behind it. It may not go
on in another line. -/
def readQuoted : List Char → Option (List Char × List Char)
  | [] => none
  | '\'' :: rest => some ([], rest)
  | '\\' :: c :: rest => do
    let (text, after) ← readQuoted rest
    return ((← unescape? c) ++ text, after)
  | c :: rest => do
    guard (c ≠ '\\' ∧ c ≠ '\n' ∧ c ≠ '\r')
    let (text, after) ← readQuoted rest
    return (c :: text, after)

/-- A text that can stand in a literal as it is. -/
def IsVerbatim (text : List Char) : Prop :=
  ∀ c ∈ text, c ≠ '\'' ∧ c ≠ '\\' ∧ c ≠ '\n' ∧ c ≠ '\r'

/-! ### Import lines -/

/-- The words of a text that has blanks between them. -/
def blankWords (text : List Char) : List (List Char) := (text.splitOn ' ').filter (!·.isEmpty)

/-- Reads what stands for a symbol: the symbol, and the name it goes by. -/
def readSpecifier? (text : List Char) : Option (String × String) :=
  match blankWords text with
  | [symbol] => do
    guard (isIdentifier symbol)
    return (String.ofList symbol, String.ofList symbol)
  | [symbol, ['a', 's'], localName] => do
    guard (isIdentifier symbol && isIdentifier localName)
    return (String.ofList symbol, String.ofList localName)
  | _ => none

/-- Reads the symbols that a line imports: each with its name, and the code from the closing brace
on. -/
def readSpecifiers? (line : List Char) : Option (List (String × String) × List Char) := do
  let rest ← line.dropPrefix? "import \x7b".toList
  let symbols ← ((rest.takeWhile (· != '\x7d')).splitOn ',').mapM readSpecifier?
  return (symbols, rest.dropWhile (· != '\x7d'))

/-- Reads the module that a line imports from, from the closing brace to the end. -/
def readModule? (code : List Char) : Option String := do
  let rest ← code.dropPrefix? "\x7d from '".toList
  let (modulePath, rest) ← readQuoted rest
  guard (rest = [';'])
  return String.ofList modulePath

/-- Reads an import line: the path of the module, and the symbols with their names. -/
def readImport? (line : String) : Option (String × List (String × String)) := do
  let (symbols, rest) ← readSpecifiers? line.toList
  return (← readModule? rest, symbols)

example : readImport? "import \x7b User, as as own \x7d from './it\\'s';" =
    some ("./it's", [("User", "User"), ("as", "own")]) := by decide +kernel

/-- Reads the specifiers of an import line. The path is what stands between the quotes, whatever a
literal makes of it. -/
def readLine? (line : String) : Option (List ImportSpecifier) := do
  let (symbols, rest) ← readSpecifiers? line.toList
  let rest ← rest.dropPrefix? "\x7d from '".toList
  let path ← rest.dropSuffix? "';".toList
  return symbols.map fun (symbol, localName) => ⟨String.ofList path, symbol, localName⟩

/-- Reads the specifiers of several import lines, line by line. -/
def readLines? (lines : List String) : Option (List ImportSpecifier) :=
  (lines.mapM readLine?).map List.flatten

/-! ### What is read of a literal -/

variable {text rest : List Char}

theorem readQuoted_append (h : IsVerbatim text) :
    readQuoted (text ++ '\'' :: rest) = some (text, rest) := by
  induction text with
  | nil => rfl
  | cons c others ih =>
    obtain ⟨⟨quote, backslash, newline, return'⟩, hothers⟩ := List.forall_mem_cons.mp h
    rw [List.cons_append, readQuoted, ih hothers]
    · simp [backslash, newline, return']
    · exact quote
    · intro d after hc
      exact absurd hc backslash

theorem length_of_unescape? {c : Char} (h : unescape? c = some text) : text.length ≤ 1 := by
  rw [unescape?.eq_def] at h
  split at h <;> cases h <;> simp

/-- A literal is never longer than its code, and as long only if it stands there as it is. -/
theorem length_of_readQuoted {code : List Char} (h : readQuoted code = some (text, rest)) :
    text.length + rest.length + 1 ≤ code.length ∧
      (text.length + rest.length + 1 = code.length → IsVerbatim text) := by
  fun_induction readQuoted code generalizing text rest with
  | case1 => cases h
  | case2 after =>
    cases h
    simp [IsVerbatim]
  | case3 c after ih =>
    obtain ⟨⟨inner, behind⟩, hinner, h⟩ := Option.bind_eq_some_iff.mp h
    obtain ⟨front, hfront, h⟩ := Option.bind_eq_some_iff.mp h
    cases h
    have shorter := (ih hinner).1
    have single := length_of_unescape? hfront
    simp only [List.length_cons, List.length_append]
    omega
  | case4 c after quote backslash ih =>
    obtain ⟨_, plain, h⟩ := Option.bind_eq_some_iff.mp h
    obtain ⟨⟨inner, behind⟩, hinner, h⟩ := Option.bind_eq_some_iff.mp h
    cases h
    have plain := (Option.guard_eq_some' _).mp plain
    obtain ⟨shorter, verbatim⟩ := ih hinner
    simp only [List.length_cons]
    refine ⟨by omega, ?_⟩
    intro same
    have others : IsVerbatim inner := verbatim (by omega)
    exact List.forall_mem_cons.mpr ⟨⟨fun hc => quote hc, plain⟩, others⟩

/-- A text that is put between quotes as it is, is read as itself exactly if nothing in it has a
meaning of its own. -/
theorem readQuoted_append_iff :
    readQuoted (text ++ '\'' :: rest) = some (text, rest) ↔ IsVerbatim text := by
  refine ⟨?_, readQuoted_append⟩
  intro h
  apply (length_of_readQuoted h).2
  simp only [List.length_append, List.length_cons]
  omega

theorem dropPrefix?_append (front back : List Char) :
    (front ++ back).dropPrefix? front = some back :=
  List.dropPrefix?_eq_some_iff.mpr ⟨front, rfl, beq_self_eq_true front⟩

/-- A path that an import line holds as it is. -/
theorem readModule?_iff {modulePath : String} :
    readModule? ("\x7d from '".toList ++ (modulePath.toList ++ ['\'', ';'])) = some modulePath ↔
      IsVerbatim modulePath.toList := by
  have literal : readQuoted (modulePath.toList ++ ['\'', ';']) = some (modulePath.toList, [';']) ↔
      IsVerbatim modulePath.toList := readQuoted_append_iff
  rw [← literal, readModule?, dropPrefix?_append, Option.bind_eq_bind, Option.bind_some]
  constructor
  · intro h
    obtain ⟨⟨path, behind⟩, hread, h⟩ := Option.bind_eq_some_iff.mp h
    obtain ⟨_, ended, h⟩ := Option.bind_eq_some_iff.mp h
    obtain rfl := (Option.guard_eq_some' _).mp ended
    cases h
    rw [String.toList_ofList]
    rw [String.toList_ofList] at hread
    exact hread
  · intro h
    rw [h]
    simp

/-! ### What is read between the braces -/

theorem blankWords_blank (text : List Char) : blankWords (' ' :: text) = blankWords text := by
  rw [blankWords, ← List.nil_append (' ' :: text), List.splitOn,
    List.splitOnP_append_cons_of_forall_mem (by simp) _ (by rfl)]
  rfl

theorem blankWords_cons {word : List Char} (nonempty : word ≠ []) (plain : ' ' ∉ word) :
    blankWords (word ++ ' ' :: text) = word :: blankWords text := by
  have unbroken : ∀ c ∈ word, (c == ' ') = false := by
    intro c hc
    rw [beq_eq_false_iff_ne]
    rintro rfl
    exact plain hc
  rw [blankWords, List.splitOn, List.splitOnP_append_cons_of_forall_mem unbroken _ (by rfl),
    List.filter_cons_of_pos (by simpa using nonempty)]
  rfl

theorem blankWords_singleton {word : List Char} (nonempty : word ≠ []) (plain : ' ' ∉ word) :
    blankWords word = [word] := by
  rw [blankWords, List.splitOn_eq_singleton plain]
  simp [nonempty]

/-- A word that a blank may stand behind. -/
theorem blankWords_last {word tail : List Char} (nonempty : word ≠ []) (plain : ' ' ∉ word)
    (h : tail = [] ∨ tail = [' ']) : blankWords (word ++ tail) = [word] := by
  rcases h with rfl | rfl
  · rw [List.append_nil, blankWords_singleton nonempty plain]
  · rw [blankWords_cons nonempty plain]
    rfl

/-- An identifier is a word, and no mark of an import line occurs in it. -/
theorem plain_of_isIdentifier {name : String} (h : isIdentifier name.toList) :
    name.toList ≠ [] ∧ ' ' ∉ name.toList ∧ ',' ∉ name.toList ∧ '\x7d' ∉ name.toList := by
  have inside : Imports.IsName name := Imports.isName_of_isIdentifier h
  have absent : ∀ mark, inIdentifier mark = false → mark ∉ name.toList := by
    intro mark outside hmem
    rw [inside mark hmem] at outside
    cases outside
  refine ⟨?_, absent _ (by decide), absent _ (by decide), absent _ (by decide)⟩
  intro empty
  rw [empty] at h
  cases h

section Specifiers

variable {symbol localName : String} (hsymbol : isIdentifier symbol.toList)
  (hlocal : isIdentifier localName.toList)

include hsymbol hlocal

theorem readSpecifier?_specifier {tail : List Char} (h : tail = [] ∨ tail = [' ']) :
    readSpecifier? (' ' :: ((Imports.specifier symbol localName).toList ++ tail)) =
      some (symbol, localName) := by
  obtain ⟨nonempty, plain, -, -⟩ := plain_of_isIdentifier hsymbol
  by_cases same : symbol = localName
  · subst same
    rw [Imports.specifier, if_pos rfl, readSpecifier?, blankWords_blank,
      blankWords_last nonempty plain h]
    simp [hsymbol]
  · obtain ⟨nonempty', plain', -, -⟩ := plain_of_isIdentifier hlocal
    have words : (Imports.specifier symbol localName).toList ++ tail =
        symbol.toList ++ ' ' :: (['a', 's'] ++ ' ' :: (localName.toList ++ tail)) := by
      simp [Imports.specifier, same]
    rw [words, readSpecifier?, blankWords_blank, blankWords_cons nonempty plain,
      blankWords_cons (by decide) (by decide), blankWords_last nonempty' plain' h]
    simp [hsymbol, hlocal]

theorem marks_not_mem_specifier :
    ',' ∉ (Imports.specifier symbol localName).toList ∧
      '\x7d' ∉ (Imports.specifier symbol localName).toList := by
  obtain ⟨-, -, comma, brace⟩ := plain_of_isIdentifier hsymbol
  obtain ⟨-, -, comma', brace'⟩ := plain_of_isIdentifier hlocal
  rw [Imports.specifier]
  split
  · exact ⟨comma, brace⟩
  · simp [comma, brace, comma', brace']

end Specifiers

/-- The code between the braces of an import line. -/
def betweenBraces (symbols : List (String × String)) : List Char :=
  ' ' :: ([',', ' '].intercalate
    (symbols.map fun (symbol, localName) => (Imports.specifier symbol localName).toList) ++ [' '])

/-- Symbols and names that are identifiers. -/
def AreIdentifiers (symbols : List (String × String)) : Prop :=
  ∀ entry ∈ symbols, isIdentifier entry.1.toList ∧ isIdentifier entry.2.toList

theorem betweenBraces_cons (symbol localName : String) (next : String × String)
    (more : List (String × String)) :
    betweenBraces ((symbol, localName) :: next :: more) =
      (' ' :: (Imports.specifier symbol localName).toList) ++
        ',' :: betweenBraces (next :: more) := by
  rw [betweenBraces, List.map_cons, List.map_cons, List.intercalate_cons_cons, betweenBraces,
    List.map_cons]
  simp

theorem mapM_readSpecifier? {symbols : List (String × String)} (nonempty : symbols ≠ [])
    (h : AreIdentifiers symbols) :
    ((betweenBraces symbols).splitOn ',').mapM readSpecifier? = some symbols := by
  induction symbols with
  | nil => exact absurd rfl nonempty
  | cons entry others ih =>
    obtain ⟨symbol, localName⟩ := entry
    obtain ⟨⟨hsymbol, hlocal⟩, hothers⟩ := List.forall_mem_cons.mp h
    have comma := (marks_not_mem_specifier hsymbol hlocal).1
    cases others with
    | nil =>
      have single : betweenBraces [(symbol, localName)] =
          ' ' :: ((Imports.specifier symbol localName).toList ++ [' ']) := by
        simp [betweenBraces]
      rw [single, List.splitOn_eq_singleton (by simp [comma]), List.mapM_cons,
        readSpecifier?_specifier hsymbol hlocal (Or.inr rfl)]
      rfl
    | cons next more =>
      have unbroken : ∀ c ∈ ' ' :: (Imports.specifier symbol localName).toList,
          (c == ',') = false := by
        intro c hc
        rw [beq_eq_false_iff_ne]
        rintro rfl
        simp [comma] at hc
      have first := readSpecifier?_specifier hsymbol hlocal (Or.inl rfl)
      have rest := ih (List.cons_ne_nil _ _) hothers
      rw [List.append_nil] at first
      rw [List.splitOn] at rest
      rw [betweenBraces_cons, List.splitOn,
        List.splitOnP_append_cons_of_forall_mem unbroken _ (by rfl), List.mapM_cons, first, rest]
      rfl

theorem brace_not_mem_betweenBraces {symbols : List (String × String)}
    (h : AreIdentifiers symbols) : '\x7d' ∉ betweenBraces symbols := by
  induction symbols with
  | nil => decide
  | cons entry others ih =>
    obtain ⟨symbol, localName⟩ := entry
    obtain ⟨⟨hsymbol, hlocal⟩, hothers⟩ := List.forall_mem_cons.mp h
    have brace := (marks_not_mem_specifier hsymbol hlocal).2
    cases others with
    | nil => simp [betweenBraces, brace]
    | cons next more =>
      rw [betweenBraces_cons]
      simp [brace, ih hothers]

/-! ### Lines of the import table -/

variable {modulePath : String} {symbols : Dictionary String}

theorem toList_line (modulePath : String) (symbols : Dictionary String) :
    (Imports.line modulePath symbols).toList = "import \x7b".toList ++
      (betweenBraces symbols.entries ++
        ("\x7d from '".toList ++ (modulePath.toList ++ ['\'', ';']))) := by
  simp [Imports.line, betweenBraces, String.toList_intercalate, Function.comp_def]

/-- The symbols and their names are read off a line whatever the path of the module is. -/
theorem readSpecifiers?_line (nonempty : symbols.entries ≠ [])
    (h : AreIdentifiers symbols.entries) :
    readSpecifiers? (Imports.line modulePath symbols).toList =
      some (symbols.entries, "\x7d from '".toList ++ (modulePath.toList ++ ['\'', ';'])) := by
  have inside : ∀ c ∈ betweenBraces symbols.entries, (c != '\x7d') = true := by
    intro c hc
    rw [bne_iff_ne]
    rintro rfl
    exact brace_not_mem_betweenBraces h hc
  rw [toList_line, readSpecifiers?, dropPrefix?_append, Option.bind_eq_bind, Option.bind_some,
    List.takeWhile_append_of_pos inside, List.dropWhile_append_of_pos inside]
  have closed : ("\x7d from '".toList ++ (modulePath.toList ++ ['\'', ';'])).takeWhile
      (· != '\x7d') = [] := rfl
  rw [closed, List.append_nil, mapM_readSpecifier? nonempty h]
  rfl

/-- A line is read as what it was made from exactly if the path can stand in it as it is. -/
theorem readImport?_line_iff (nonempty : symbols.entries ≠ []) (h : AreIdentifiers symbols.entries)
    {pairs : List (String × String)} :
    readImport? (Imports.line modulePath symbols) = some (modulePath, pairs) ↔
      IsVerbatim modulePath.toList ∧ pairs = symbols.entries := by
  rw [readImport?, readSpecifiers?_line nonempty h, ← readModule?_iff, Option.bind_eq_bind,
    Option.bind_some]
  constructor
  · intro read
    obtain ⟨path, hpath, read⟩ := Option.bind_eq_some_iff.mp read
    cases read
    exact ⟨hpath, rfl⟩
  · rintro ⟨hpath, rfl⟩
    dsimp only
    rw [hpath]
    rfl

/-- The specifiers are read off a line whatever the path of the module is. -/
theorem readLine?_line (nonempty : symbols.entries ≠ []) (h : AreIdentifiers symbols.entries) :
    readLine? (Imports.line modulePath symbols) =
      some (symbols.entries.map fun (symbol, localName) => ⟨modulePath, symbol, localName⟩) := by
  have closed : (modulePath.toList ++ ['\'', ';']).dropSuffix? "';".toList =
      some modulePath.toList :=
    List.dropSuffix?_eq_some_iff.mpr ⟨_, rfl, beq_self_eq_true _⟩
  rw [readLine?, readSpecifiers?_line nonempty h, Option.bind_eq_bind, Option.bind_some]
  dsimp only
  rw [dropPrefix?_append, Option.bind_eq_bind, Option.bind_some, closed, Option.bind_some,
    String.ofList_toList]
  rfl

/-- All specifiers of a table are read off its lines. -/
theorem readLines?_lines {imports : Imports}
    (h : ∀ line ∈ imports.entries, line.2.entries ≠ [] ∧ AreIdentifiers line.2.entries) :
    readLines? imports.lines = some imports.specifiers := by
  rw [readLines?, Imports.lines, Imports.specifiers, List.flatMap]
  generalize imports.entries = lines at h ⊢
  induction lines with
  | nil => rfl
  | cons line others ih =>
    obtain ⟨⟨nonempty, identifiers⟩, hothers⟩ := List.forall_mem_cons.mp h
    obtain ⟨read, hread, same⟩ := Option.map_eq_some_iff.mp (ih hothers)
    rw [List.map_cons, List.mapM_cons, readLine?_line nonempty identifiers, hread]
    simp [same]

end GraphTypes.TypeScript
