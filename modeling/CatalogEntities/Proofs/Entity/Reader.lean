import CatalogEntities.Proofs.Entity.Layout
import CatalogEntities.Proofs.Text.Reader

/-!
# `Proofs/Entity/Reader.lean` — reading an entity file

A reader for the format that `Entity/Source.lean` writes. It reads line by line and from left to
right: what stands in front of a text tells what the text is, and the text tells where it ends,
either by its closing quote or because the line ends there. Nothing is checked that need not be
known; what the reader gives for a file that no entity has does not matter.

Every part has its round trip: read what was written, whatever follows. The parts whose round trip
is not obvious are three.

* A **default** stands at the end of its line without quotes of its own. That it is a literal, and
  not the function that returns an expression, shows in its first character
  (`DefaultValue.not_parenthesis_of_isLiteral`).
* A **column type** is a pair of a storage kind and a property type. A native type that is not known
  has the property type of no known one, so the pair tells the native type
  (`ColumnType.native_ofNative`).
* The **labels** of an enumeration are a list of literals of unknown length; the reader has fuel for
  as many as there are characters.

The reader is no part of the program. It is how "the file tells what is in it" is proved: a function
that gives back the fields from the text leaves no room for two tables with one text
(`Proofs/Entity/Determined.lean`), and writing the function is easier than comparing two texts that
are known only to be equal. Each reader takes the rest of the text with it, so that the lemmas are
about a part in front of any rest and compose without more ado.
-/

set_option autoImplicit false

namespace CatalogEntities

open CatalogEntities.Text

/-! ## Column types -/

namespace ColumnType

/-- The native type that a column type stands for. A known pair is looked up, and any other pair has
the native type as its storage kind, since that is what unknown types are written with. -/
def native (type : ColumnType) : String :=
  match known.find? fun entry => entry.2 = type with
  | some entry => entry.1
  | none => type.storage

/-- No two known native types become the same, and none becomes what an unknown one does. -/
theorem known_native : ∀ entry ∈ known,
    entry.2.native = entry.1 ∧ entry.2.script ≠ unknownScript := by
  decide

/-- **A column type tells the native type.** -/
theorem native_ofNative (dataType : String) : (ofNative dataType).native = dataType := by
  unfold ofNative
  cases h : known.lookup dataType with
  | some type => exact (known_native _ (mem_of_lookup_eq_some h)).1
  | none =>
    unfold native
    cases hfind : known.find? fun entry => entry.2 = (none.getD ⟨dataType, unknownScript⟩) with
    | none => rfl
    | some entry =>
      have hentry : entry.2 = ⟨dataType, unknownScript⟩ := by
        simpa using List.find?_some hfind
      exact absurd (by rw [hentry]) (known_native _ (List.mem_of_find?_eq_some hfind)).2

end ColumnType

/-! ## Defaults -/

namespace Text

/-- Trimming leaves a first character that is not blank where it is. -/
theorem head?_trim {c : Char} (hc : isBlank c = false) (rest : List Char) :
    (trim (c :: rest)).head? = some c := by
  have hstart : trimStart (c :: rest) = c :: rest := by
    rw [trimStart, List.dropWhile_cons_of_neg (by rw [hc]; exact Bool.false_ne_true)]
  rw [trim, hstart, trimEnd, List.reverse_cons, List.dropWhile_append]
  split
  · rw [List.dropWhile_cons_of_neg (by rw [hc]; exact Bool.false_ne_true)]
    rfl
  · rw [List.reverse_append]
    rfl

end Text

namespace DefaultValue

/-- No number begins with a parenthesis. -/
theorem isNumber_parenthesis (rest : List Char) : isNumber ('(' :: rest) = false := by
  have hhead := head?_trim (by decide : isBlank '(' = false) rest
  unfold isNumber
  cases htrim : trim ('(' :: rest) with
  | nil => rw [htrim] at hhead; exact absurd hhead (by simp)
  | cons c text =>
    rw [htrim] at hhead
    obtain rfl : c = '(' := Option.some.inj hhead
    rfl

/-- **A literal does not begin with a parenthesis**, so it is told from a function. -/
theorem not_parenthesis_of_isLiteral {raw : String} (h : (classify raw).kind.isLiteral = true)
    (rest : List Char) : raw.toList ≠ '(' :: rest := by
  intro hraw
  unfold classify at h
  -- quoted texts, numbers and the two words are literals, and each begins with something else
  split at h
  · rename_i hquoted
    simp [isQuotedText, hraw] at hquoted
  split at h
  · rename_i hnumber
    rw [hraw, isNumber_parenthesis] at hnumber
    exact Bool.noConfusion hnumber
  split at h
  · rename_i hword
    rcases hword with rfl | rfl
    · exact absurd (List.cons.inj hraw).1 (by decide)
    · exact absurd (List.cons.inj hraw).1 (by decide)
  split at h
  · exact Bool.noConfusion h
  · exact Bool.noConfusion h

/-- Reads the value of a default option: a function that returns a quoted expression, or else a
literal, which is the text itself. -/
def readSource? (text : List Char) : Option String :=
  match after? "() => " text with
  | some expression => (readQuoted '"' expression).map fun literal => String.ofList literal.1
  | none => some (String.ofList text)

/-- **A default is read back from its source**, verbatim. -/
theorem readSource?_source (raw : String) :
    readSource? (classify raw).source.toList = some raw := by
  unfold source
  split
  · -- a literal is written as it is, and cannot look like a function
    rename_i hliteral
    rw [raw_classify]
    unfold readSource?
    cases hafter : after? "() => " raw.toList with
    | none => rw [String.ofList_toList]
    | some rest =>
      have hraw := List.isPrefixOf?_eq_some_iff_append_eq.1 hafter
      exact absurd hraw.symm (not_parenthesis_of_isLiteral hliteral _)
  · rw [raw_classify, String.toList_append, toList_doubleQuoted]
    unfold readSource?
    rw [after?_append, ← List.append_nil (quoted _ _)]
    dsimp only
    rw [readQuoted_quoted (by decide), Option.map_some, String.ofList_toList]

end DefaultValue

/-! ## Fields -/

/-- An object literal is its first entry and then each entry with a comma in front. -/
theorem toList_objectLiteral (first : String) (rest : List String) :
    (objectLiteral (first :: rest)).toList =
      "\x7b ".toList ++ (first.toList ++
        (rest.flatMap (fun e => ", ".toList ++ e.toList) ++ " \x7d".toList)) := by
  unfold objectLiteral
  rw [String.toList_append, String.toList_append, String.toList_intercalate, List.map_cons,
    intercalate_cons_eq, List.flatMap_map]
  simp only [List.append_assoc]

namespace EmittedField

/-- Reads the beginning of an object literal: the name of a column, which every decorator of a
column has as its first option. -/
def readColumn? (text : List Char) : Option (String × List Char) :=
  ((after? "\x7b name: " text).bind (readQuoted '\'')).map fun (name, rest) =>
    (String.ofList name, rest)

theorem readColumn?_objectLiteral (column : String) (entries : List String) (rest : List Char) :
    readColumn? ((objectLiteral (Field.nameEntry column :: entries)).toList ++ rest) =
      some (column, entries.flatMap (fun e => ", ".toList ++ e.toList) ++
        (" \x7d".toList ++ rest)) := by
  unfold readColumn? Field.nameEntry
  rw [toList_objectLiteral, String.toList_append, toList_singleQuoted]
  simp only [List.append_assoc]
  -- The two fixed texts in front of the name are one for the reader.
  have hfixed : ∀ text : List Char,
      "\x7b ".toList ++ ("name: ".toList ++ text) = "\x7b name: ".toList ++ text := fun _ => rfl
  rw [hfixed, after?_append, Option.bind_some, readQuoted_quoted (by decide), Option.map_some,
    String.ofList_toList]

/-- Reads the property type of a declaration, given the column that it declares. The column is known
from the decorator, so the property key need not be read and is only checked. -/
def readScript? (column ending : String) (declaration : List Char) : Option String :=
  ((after? (Naming.propertyKey column ++ ": ") declaration).bind (before? ending)).map
    String.ofList

theorem readScript?_declaration (column script ending : String) :
    readScript? column ending
      (Naming.propertyKey column ++ ": " ++ script ++ ending).toList = some script := by
  unfold readScript?
  rw [String.toList_append, String.toList_append, List.append_assoc, after?_append,
    Option.bind_some, before?_append, Option.map_some, String.ofList_toList]

/-- Reads a key column whose decorator begins in a given way. -/
def readKey? (opening : String) (strategy : KeyStrategy) (decorator declaration : List Char) :
    Option EmittedField := do
  let (column, _) ← (after? opening decorator).bind readColumn?
  let script ← readScript? column ";" declaration
  return key column strategy script

theorem readKey?_lines (opening closing column script : String) (strategy : KeyStrategy) :
    readKey? opening strategy (opening ++ objectLiteral [Field.nameEntry column] ++ closing).toList
      (Field.declaration column script).toList = some (key column strategy script) := by
  unfold readKey? Field.declaration
  rw [String.toList_append, String.toList_append, List.append_assoc, after?_append,
    Option.bind_some, readColumn?_objectLiteral]
  show Option.bind (readScript? column ";" _) _ = _
  rw [readScript?_declaration]
  rfl

/-! ### Labels -/

/-- Reads the labels behind the first. -/
def moreLabels? : Nat → List Char → Option (List String × List Char)
  | 0, _ => none
  | fuel + 1, text =>
      match after? ", " text with
      | none => some ([], text)
      | some text => do
          let (label, text) ← readQuoted '"' text
          let (labels, text) ← moreLabels? fuel text
          return (String.ofList label :: labels, text)

/-- Labels are read back with fuel for one more than there are, up to the bracket behind them. -/
theorem moreLabels?_literals (rest : List Char) :
    ∀ (labels : List String) (fuel : Nat), labels.length < fuel →
      moreLabels? fuel ((labels.map doubleQuoted).flatMap (fun e => ", ".toList ++ e.toList) ++
        ("]".toList ++ rest)) = some (labels, "]".toList ++ rest) := by
  intro labels
  induction labels with
  | nil =>
    intro fuel hfuel
    cases fuel with
    | zero => exact absurd hfuel (Nat.not_lt_zero _)
    | succ fuel => rfl
  | cons label labels ih =>
    intro fuel hfuel
    cases fuel with
    | zero => exact absurd hfuel (Nat.not_lt_zero _)
    | succ fuel =>
      unfold moreLabels?
      rw [List.map_cons, List.flatMap_cons, List.append_assoc, List.append_assoc, after?_append,
        toList_doubleQuoted]
      dsimp only
      rw [readQuoted_quoted (by decide)]
      show Option.bind (moreLabels? fuel _) _ = _
      rw [ih fuel (Nat.lt_of_succ_lt_succ hfuel), Option.bind_some, String.ofList_toList]
      rfl

/-- Reads a list of labels; there are fewer of them than characters. -/
def readLabels? (text : List Char) : Option (List String × List Char) :=
  match readQuoted '"' text with
  | none => some ([], text)
  | some (label, text) =>
      (moreLabels? (text.length + 1) text).map fun (labels, text) =>
        (String.ofList label :: labels, text)

theorem readLabels?_literals (labels : List String) (rest : List Char) :
    readLabels? ((", ".intercalate (labels.map doubleQuoted)).toList ++ ("]".toList ++ rest)) =
      some (labels, "]".toList ++ rest) := by
  cases labels with
  | nil => rfl
  | cons label labels =>
    unfold readLabels?
    rw [String.toList_intercalate, List.map_cons, List.map_cons, intercalate_cons_eq,
      toList_doubleQuoted, List.append_assoc, List.flatMap_map, readQuoted_quoted (by decide)]
    dsimp only
    rw [moreLabels?_literals, Option.map_some, String.ofList_toList]
    -- each label takes at least its comma and its blank, so the text has fuel for all
    have hlength : ∀ more : List String, more.length ≤
        (more.flatMap fun e => ", ".toList ++ e.toList).length := by
      intro more
      induction more with
      | nil => exact Nat.le_refl _
      | cons e more ih =>
        rw [List.flatMap_cons, List.length_append, List.length_append, List.length_cons]
        have : (", ".toList).length = 2 := rfl
        omega
    have := hlength (labels.map doubleQuoted)
    rw [List.length_map] at this
    rw [List.length_append]
    omega

/-! ### Options -/

/-- The options of a value column behind its name. They stand in this order, and each of them may be
missing, which the reader tells by trying the name of the next option. -/
def options (nullable : Bool) (maxLength : Option Int32) (default : Option String) : List String :=
  Field.nullableEntry nullable
    ++ (maxLength.map fun n => "length: " ++ toString n.toInt).toList
    ++ (default.map fun raw => "default: " ++ (DefaultValue.classify raw).source).toList

/-- The text of these options, and the end of the decorator. -/
def optionText (nullable : Bool) (maxLength : Option Int32) (default : Option String) :
    List Char :=
  (options nullable maxLength default).flatMap (fun e => ", ".toList ++ e.toList)
    ++ " \x7d)".toList

theorem optionText_length (n : Int32) (default : Option String) :
    optionText false (some n) default =
      ", length: ".toList ++ ((toString n.toInt).toList ++ optionText false none default) := by
  unfold optionText options
  rw [List.flatMap_append, List.flatMap_append, Option.map_some, Option.toList_some,
    List.flatMap_singleton, String.toList_append]
  simp only [List.append_assoc]
  rfl

theorem optionText_default (raw : String) :
    optionText false none (some raw) =
      ", default: ".toList ++ ((DefaultValue.classify raw).source.toList ++ " \x7d)".toList) := by
  unfold optionText options
  rw [List.flatMap_append, List.flatMap_append, Option.map_some, Option.toList_some,
    List.flatMap_singleton, String.toList_append]
  simp only [List.append_assoc]
  rfl

theorem optionText_nullable (maxLength : Option Int32) (default : Option String) :
    optionText true maxLength default =
      ", nullable: true".toList ++ optionText false maxLength default := rfl

/-- Reads whether a column accepts null. -/
def readNullable (text : List Char) : Bool × List Char :=
  match after? ", nullable: true" text with
  | some rest => (true, rest)
  | none => (false, text)

/-- An option that is missing is not taken for the next one: every case is settled by the first
characters of what is there instead. -/
theorem readNullable_optionText (nullable : Bool) (maxLength : Option Int32)
    (default : Option String) :
    readNullable (optionText nullable maxLength default) =
      (nullable, optionText false maxLength default) := by
  cases nullable with
  | true =>
    unfold readNullable
    rw [optionText_nullable, after?_append]
  | false =>
    cases maxLength with
    | some n => rw [optionText_length]; rfl
    | none =>
      cases default with
      | some raw => rw [optionText_default]; rfl
      | none => rfl

/-- Reads the maximum length of a column, behind whether it accepts null. -/
def readLength (text : List Char) : Option Int32 × List Char :=
  match after? ", length: " text with
  | some rest => (some (Int32.ofInt (readInt (rest.takeWhile isNumeral))), rest.dropWhile isNumeral)
  | none => (none, text)

theorem readLength_optionText (maxLength : Option Int32) (default : Option String) :
    readLength (optionText false maxLength default) =
      (maxLength, optionText false none default) := by
  cases maxLength with
  | none =>
    cases default with
    | none => rfl
    | some raw => rw [optionText_default]; rfl
  | some n =>
    have hnumerals : ∀ c ∈ (toString n.toInt).toList, isNumeral c = true :=
      fun c hc => isNumeral_of_mem_toString hc
    -- Behind the number stands a comma or a blank, where the reader stops.
    have hstop : (optionText false none default).takeWhile isNumeral = [] ∧
        (optionText false none default).dropWhile isNumeral = optionText false none default := by
      cases default with
      | none => exact ⟨rfl, rfl⟩
      | some raw => rw [optionText_default]; exact ⟨rfl, rfl⟩
    unfold readLength
    rw [optionText_length, after?_append]
    dsimp only
    rw [List.takeWhile_append_of_pos hnumerals, List.dropWhile_append_of_pos hnumerals, hstop.1,
      hstop.2, List.append_nil, readInt_toString, Int32.ofInt_toInt]

/-- Reads the default of a column, behind its other options. -/
def readDefault? (text : List Char) : Option (Option String) :=
  match after? ", default: " text with
  | some rest => ((before? " \x7d)" rest).bind DefaultValue.readSource?).map some
  | none => some none

theorem readDefault?_optionText (default : Option String) :
    readDefault? (optionText false none default) = some default := by
  cases default with
  | none => rfl
  | some raw =>
    unfold readDefault?
    rw [optionText_default, after?_append]
    dsimp only
    rw [before?_append, Option.bind_some, DefaultValue.readSource?_source]
    rfl

/-! ### Columns that are no key -/

/-- What ends a declaration. -/
def endingOf (nullable : Bool) : String := if nullable then " | null;" else ";"

/-- Accepting null changes how a declaration ends, and nothing before that. -/
theorem declaration_orNull (column script : String) (nullable : Bool) :
    Field.declaration column (Field.orNull script nullable) =
      Naming.propertyKey column ++ ": " ++ script ++ endingOf nullable := by
  cases nullable with
  | false => rfl
  | true =>
    unfold Field.declaration Field.orNull endingOf
    rw [if_pos rfl, if_pos rfl]
    simp only [String.append_assoc]
    rfl

/-- Reads a column that is no key. Whether it is a choice is told by the option behind the name and
not by the storage kind, since a native type may be called `enum` too. -/
def readPlain? (decorator declaration : List Char) : Option EmittedField := do
  let (storage, text) ← (after? "@Column(" decorator).bind (readQuoted '\'')
  let (column, text) ← (after? ", " text).bind readColumn?
  match after? ", enum: [" text with
  | some text =>
      let (labels, text) ← readLabels? text
      let text ← after? "]" text
      return choice column labels (readNullable text).1
  | none =>
      let (nullable, text) := readNullable text
      let (maxLength, text) := readLength text
      let default ← readDefault? text
      let script ← readScript? column (endingOf nullable) declaration
      return value column (ColumnType.native ⟨String.ofList storage, script⟩) nullable maxLength
        default

theorem readPlain?_choice (column : String) (labels : List String) (nullable : Bool)
    (declaration : List Char) :
    readPlain?
      ("@Column('enum', " ++ objectLiteral (Field.nameEntry column ::
        ("enum: [" ++ ", ".intercalate (labels.map doubleQuoted) ++ "]") ::
          Field.nullableEntry nullable) ++ ")").toList declaration =
      some (choice column labels nullable) := by
  -- the line is brought into the form in which the reader takes it apart, piece by piece
  have hkind : ∀ text : List Char, "@Column('enum', ".toList ++ text =
      "@Column(".toList ++ (quoted '\'' "enum".toList ++ (", ".toList ++ text)) := fun _ => rfl
  have hlabels : ∀ text : List Char, ", ".toList ++
      (("enum: [" ++ ", ".intercalate (labels.map doubleQuoted) ++ "]").toList ++ text) =
        ", enum: [".toList ++ ((", ".intercalate (labels.map doubleQuoted)).toList ++
          ("]".toList ++ text)) := by
    intro text
    rw [String.toList_append, String.toList_append]
    simp only [List.append_assoc]
    rfl
  have hoptions : (Field.nullableEntry nullable).flatMap (fun e => ", ".toList ++ e.toList) ++
      (" \x7d".toList ++ ")".toList) = optionText nullable none none := by
    cases nullable <;> rfl
  -- now each step of the reader meets the text that it was written for
  unfold readPlain?
  rw [String.toList_append, String.toList_append, List.append_assoc, hkind, after?_append,
    Option.bind_some, readQuoted_quoted (by decide)]
  dsimp only [Option.bind_eq_bind, Option.bind_some]
  rw [after?_append, Option.bind_some, readColumn?_objectLiteral]
  dsimp only [Option.bind_some]
  rw [List.flatMap_cons, List.append_assoc, List.append_assoc, hlabels, hoptions, after?_append]
  dsimp only
  rw [readLabels?_literals]
  dsimp only [Option.bind_some]
  rw [after?_append]
  dsimp only [Option.bind_some]
  rw [readNullable_optionText]
  rfl

theorem readPlain?_value (column dataType : String) (nullable : Bool) (maxLength : Option Int32)
    (default : Option String) :
    readPlain?
      ("@Column(" ++ singleQuoted (ColumnType.ofNative dataType).storage ++ ", " ++
        objectLiteral (Field.nameEntry column :: options nullable maxLength default) ++ ")").toList
      (Field.declaration column
        (Field.orNull (ColumnType.ofNative dataType).script nullable)).toList =
      some (value column dataType nullable maxLength default) := by
  have hoptions : (options nullable maxLength default).flatMap (fun e => ", ".toList ++ e.toList) ++
      (" \x7d".toList ++ ")".toList) = optionText nullable maxLength default := rfl
  -- No option of a value column is a list of labels.
  have hvalue : after? ", enum: [" (optionText nullable maxLength default) = none := by
    cases nullable with
    | true => rw [optionText_nullable]; rfl
    | false =>
      cases maxLength with
      | some n => rw [optionText_length]; rfl
      | none =>
        cases default with
        | some raw => rw [optionText_default]; rfl
        | none => rfl
  -- the steps of the reader in their order: kind, column, no labels, and the three options
  unfold readPlain?
  rw [String.toList_append, String.toList_append, String.toList_append, String.toList_append,
    toList_singleQuoted]
  simp only [List.append_assoc]
  rw [after?_append, Option.bind_some, readQuoted_quoted (by decide)]
  dsimp only [Option.bind_eq_bind, Option.bind_some]
  rw [after?_append, Option.bind_some, readColumn?_objectLiteral]
  dsimp only [Option.bind_some]
  rw [hoptions, hvalue]
  dsimp only
  rw [readNullable_optionText]
  dsimp only
  rw [readLength_optionText]
  dsimp only
  rw [readDefault?_optionText]
  dsimp only [Option.bind_some]
  rw [declaration_orNull, readScript?_declaration, String.ofList_toList]
  dsimp only [Option.bind_some]
  rw [ColumnType.native_ofNative]
  rfl

/-! ### Any field -/

/-- Reads a relation. -/
def readRelation? (target join : List Char) : Option EmittedField := do
  let class_ ← (after? "@ManyToOne(() => " target).bind (before? ")")
  let (column, _) ← (after? "@JoinColumn(" join).bind readColumn?
  return relation column (String.ofList class_)

/-- **Reads a field** from its lines, without the blanks they begin with. A relation has three
lines, and a column two; which kind of column it is, its decorator tells. -/
def read? : List (List Char) → Option EmittedField
  | [decorator, declaration] =>
      (readKey? "@PrimaryGeneratedColumn('uuid', " .generatedUuid decorator declaration).or
        ((readKey? "@PrimaryGeneratedColumn(" .generatedSequence decorator declaration).or
          ((readKey? "@PrimaryColumn(" .plain decorator declaration).or
            (readPlain? decorator declaration)))
  | [target, join, _] => readRelation? target join
  | _ => none

theorem read?_pair (decorator declaration : List Char) :
    read? [decorator, declaration] =
      (readKey? "@PrimaryGeneratedColumn('uuid', " .generatedUuid decorator declaration).or
        ((readKey? "@PrimaryGeneratedColumn(" .generatedSequence decorator declaration).or
          ((readKey? "@PrimaryColumn(" .plain decorator declaration).or
            (readPlain? decorator declaration))) := rfl

theorem readKey?_eq_none {opening : String} {strategy : KeyStrategy}
    {decorator declaration : List Char} (h : after? opening decorator = none) :
    readKey? opening strategy decorator declaration = none := by
  unfold readKey?
  rw [h]
  rfl

/-- A decorator of a column that is no key is no decorator of a key. -/
theorem read?_column {decorator : List Char} (h : ∃ text, decorator = "@Column(".toList ++ text)
    (declaration : List Char) :
    read? [decorator, declaration] = readPlain? decorator declaration := by
  obtain ⟨text, rfl⟩ := h
  rw [read?_pair, readKey?_eq_none rfl, readKey?_eq_none rfl, readKey?_eq_none rfl,
    Option.none_or, Option.none_or, Option.none_or]

theorem read?_key (column script : String) (strategy : KeyStrategy) :
    read? [(Field.keyDecorator column strategy).toList,
      (Field.declaration column script).toList] = some (key column strategy script) := by
  rw [read?_pair]
  cases strategy with
  | generatedUuid =>
    have hdecorator : Field.keyDecorator column .generatedUuid =
        "@PrimaryGeneratedColumn('uuid', " ++ objectLiteral [Field.nameEntry column] ++ ")" := rfl
    rw [hdecorator, readKey?_lines, Option.some_or]
  | generatedSequence =>
    have hdecorator : Field.keyDecorator column .generatedSequence =
        "@PrimaryGeneratedColumn(" ++ objectLiteral [Field.nameEntry column] ++ ")" := rfl
    -- The two generated decorators part only behind the parenthesis.
    have huuid : after? "@PrimaryGeneratedColumn('uuid', "
        ("@PrimaryGeneratedColumn(" ++ objectLiteral [Field.nameEntry column] ++ ")").toList =
          none := by
      rw [String.toList_append, String.toList_append, toList_objectLiteral]
      rfl
    rw [hdecorator, readKey?_eq_none huuid, Option.none_or, readKey?_lines, Option.some_or]
  | plain =>
    have hdecorator : Field.keyDecorator column .plain =
        "@PrimaryColumn(" ++ objectLiteral [Field.nameEntry column] ++ ")" := rfl
    have huuid : after? "@PrimaryGeneratedColumn('uuid', "
        ("@PrimaryColumn(" ++ objectLiteral [Field.nameEntry column] ++ ")").toList = none := by
      rw [String.toList_append, String.toList_append, List.append_assoc]
      rfl
    have hsequence : after? "@PrimaryGeneratedColumn("
        ("@PrimaryColumn(" ++ objectLiteral [Field.nameEntry column] ++ ")").toList = none := by
      rw [String.toList_append, String.toList_append, List.append_assoc]
      rfl
    rw [hdecorator, readKey?_eq_none huuid, readKey?_eq_none hsequence, Option.none_or,
      Option.none_or, readKey?_lines, Option.some_or]

theorem read?_relation (referenceSuffix column target : String) :
    read? (((relation column target).field referenceSuffix).lines.map String.toList) =
      some (relation column target) := by
  show readRelation? ("@ManyToOne(() => " ++ target ++ ")").toList
    ("@JoinColumn(" ++ objectLiteral [Field.nameEntry column] ++ ")").toList = _
  unfold readRelation?
  rw [String.toList_append, String.toList_append, List.append_assoc, after?_append,
    Option.bind_some, before?_append, String.toList_append, String.toList_append,
    List.append_assoc, after?_append, Option.bind_some, readColumn?_objectLiteral]
  show some (relation column (String.ofList target.toList)) = _
  rw [String.ofList_toList]

/-- **A field is read back from its lines**, whatever the suffix of references is. The cases are the
kinds of fields, and for those that share `@Column` it is shown first that no reader of keys takes
the line. -/
theorem read?_lines (f : EmittedField) (referenceSuffix : String) :
    read? ((f.field referenceSuffix).lines.map String.toList) = some f := by
  cases f with
  | key column strategy script => exact read?_key column script strategy
  | choice column labels nullable =>
    have hdecorator : ∀ text : String, ∃ rest, ("@Column('enum', " ++ text ++ ")").toList =
        "@Column(".toList ++ rest := by
      intro text
      refine ⟨"'enum', ".toList ++ (text.toList ++ ")".toList), ?_⟩
      rw [String.toList_append, String.toList_append, List.append_assoc]
      rfl
    exact Eq.trans (read?_column (hdecorator _) _) (readPlain?_choice column labels nullable _)
  | value column dataType nullable maxLength default =>
    -- the default of the field is already classified, the reader's options classify it themselves
    have hlines : ((value column dataType nullable maxLength default).field
        referenceSuffix).lines.map String.toList =
          [("@Column(" ++ singleQuoted (ColumnType.ofNative dataType).storage ++ ", " ++
            objectLiteral (Field.nameEntry column :: options nullable maxLength default) ++
              ")").toList,
            (Field.declaration column
              (Field.orNull (ColumnType.ofNative dataType).script nullable)).toList] := by
      unfold options
      rw [field, Field.lines, Option.map_map]
      rfl
    rw [hlines]
    have hdecorator : ∀ kind text : String, ∃ rest, ("@Column(" ++ kind ++ ", " ++ text ++
        ")").toList = "@Column(".toList ++ rest := by
      intro kind text
      refine ⟨kind.toList ++ (", ".toList ++ (text.toList ++ ")".toList)), ?_⟩
      simp only [String.toList_append, List.append_assoc]
    exact Eq.trans (read?_column (hdecorator _ _) _)
      (readPlain?_value column dataType nullable maxLength default)
  | relation column target => exact read?_relation referenceSuffix column target

end EmittedField

end CatalogEntities
