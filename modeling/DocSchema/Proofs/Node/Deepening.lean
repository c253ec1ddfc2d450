import DocSchema.Proofs.Node.Spans

/-!
# The text of a value on a deeper level

Keys and values without parts are written on one line. What is written on a deeper level has the
same lines, and all but the first one begin with so many spaces more. Main statement: `shown_add`.
-/

namespace DocSchema

namespace Text

/-- Whether a text has no line ends. -/
def OneLine (text : String) : Prop := '\n' ∉ text.toList

/-- The text with further spaces after every line end. -/
def indentedBy (spaces : Nat) (text : String) : String :=
  String.ofList (text.toList.flatMap fun character =>
    if character = '\n' then '\n' :: List.replicate spaces ' ' else [character])

theorem oneLine_append_iff {left right : String} :
    OneLine (left ++ right) ↔ OneLine left ∧ OneLine right := by
  simp [OneLine]

theorem indentedBy_append (spaces : Nat) (left right : String) :
    indentedBy spaces (left ++ right) = indentedBy spaces left ++ indentedBy spaces right := by
  simp only [indentedBy, String.toList_append, List.flatMap_append, String.ofList_append]

theorem indentedBy_of_oneLine {text : String} (single : OneLine text) (spaces : Nat) :
    indentedBy spaces text = text := by
  have kept : text.toList.flatMap (fun character =>
      if character = '\n' then '\n' :: List.replicate spaces ' ' else [character]) =
      text.toList.flatMap fun character => [character] := by
    refine List.flatMap_congr fun character member => if_neg ?_
    rintro rfl
    exact single member
  rw [indentedBy, kept, List.flatMap_singleton', String.ofList_toList]

/-- A line and its end. -/
theorem indentedBy_line {text : String} (single : OneLine text) (spaces : Nat) :
    indentedBy spaces (text ++ "\n") =
      text ++ "\n" ++ String.ofList (List.replicate spaces ' ') := by
  have ending : indentedBy spaces "\n" = "\n" ++ String.ofList (List.replicate spaces ' ') := by
    rw [← String.toList_inj]
    simp [indentedBy]
  rw [indentedBy_append, indentedBy_of_oneLine single, ending, String.append_assoc]

end Text

open Text (OneLine indentedBy)

/-! ### Values without parts -/

theorem newline_not_mem_toDigits (number : Nat) : '\n' ∉ Nat.toDigits 10 number := by
  intro member
  have digit := Nat.isDigit_of_mem_toDigits (by decide) (by decide) member
  exact absurd digit (by decide)

theorem oneLine_repr (number : Nat) : OneLine number.repr := by
  simpa [OneLine, Nat.repr] using newline_not_mem_toDigits number

namespace Json

theorem oneLine_booleanText (value : Bool) : OneLine (booleanText value) := by
  cases value <;> simp [OneLine, booleanText]

theorem oneLine_integerText (value : Int) : OneLine (integerText value) := by
  unfold integerText
  split
  next => exact Text.oneLine_append_iff.mpr ⟨by simp [OneLine], oneLine_repr _⟩
  next => exact oneLine_repr _

theorem hexDigit_ne_newline : ∀ value < 16, hexDigit value ≠ '\n' := by
  decide

/-- Line ends are among the characters that are escaped. -/
theorem newline_not_mem_escaped (character : Char) : '\n' ∉ escaped character := by
  unfold escaped
  split
  case h_8 _ _ _ _ plain _ _ =>
    -- The characters without an escape of their own; `plain` says that this is no line end.
    split
    next control =>
      have high := hexDigit_ne_newline (character.toNat / 16) (by omega)
      have low := hexDigit_ne_newline (character.toNat % 16) (by omega)
      simp [high.symm, low.symm]
    next => simpa using Ne.symm plain
  all_goals simp

theorem oneLine_quoted (text : String) : OneLine (quoted text) := by
  simp [OneLine, quoted, newline_not_mem_escaped]

end Json

namespace Double

theorem newline_not_mem_positionalText (style : Style) {digits : List Char} (exponent : Int)
    (single : '\n' ∉ digits) : '\n' ∉ positionalText style digits exponent := by
  have front (count : Nat) : '\n' ∉ digits.take count :=
    fun member => single (List.mem_of_mem_take member)
  have back (count : Nat) : '\n' ∉ digits.drop count :=
    fun member => single (List.mem_of_mem_drop member)
  unfold positionalText
  split
  next => cases style.pointed <;> simp [single]
  next =>
    dsimp only
    split
    next => simp [front, back]
    next => simp [single]

theorem newline_not_mem_exponentText (style : Style) {digits : List Char} (leading : Int)
    (single : '\n' ∉ digits) : '\n' ∉ exponentText style digits leading := by
  have first : '\n' ∉ digits.take 1 := fun member => single (List.mem_of_mem_take member)
  have others : '\n' ∉ digits.drop 1 := fun member => single (List.mem_of_mem_drop member)
  have sign : '\n' ∉
      (if leading < 0 then ['-'] else if style.signedExponent then ['+'] else []) := by
    by_cases negative : leading < 0
    · simp [negative]
    · cases signed : style.signedExponent <;> simp [negative]
  have power := newline_not_mem_toDigits leading.natAbs
  unfold exponentText
  generalize digits.drop 1 = more at others ⊢
  -- There is a point only if there are further digits.
  cases more with
  | nil => simp [first, sign, power]
  | cons digit further =>
    have point : '\n' ∉ '.' :: digit :: further := by simpa using others
    simp only [List.mem_append, List.mem_cons, not_or] at point ⊢
    simp [first, point, sign, power]

theorem newline_not_mem_absoluteText (style : Style) (number : Double) :
    '\n' ∉ absoluteText style number := by
  have digits : '\n' ∉ (number.shortest style.tie).digits.repr.toList := oneLine_repr _
  unfold absoluteText
  split
  next => cases style.pointed <;> simp
  next =>
    -- Whatever decides between the two layouts, neither has line ends.
    have layouts (positional : Bool) (exponent leading : Int) : '\n' ∉
        (if positional then
          positionalText style (number.shortest style.tie).digits.repr.toList exponent
        else exponentText style (number.shortest style.tie).digits.repr.toList leading) := by
      cases positional with
      | true => exact newline_not_mem_positionalText style exponent digits
      | false => exact newline_not_mem_exponentText style leading digits
    exact layouts _ _ _

/-- Numbers are written on one line, those that are not finite included. -/
theorem oneLine_text (style : Style) (number : Double) : OneLine (number.text style) := by
  unfold text
  split
  next => simp [OneLine]
  next =>
    have unsigned : '\n' ∉
        (if number.isFinite then absoluteText style number else ['i', 'n', 'f']) := by
      split
      next => exact newline_not_mem_absoluteText style number
      next => simp
    cases number.isNegative <;> simp [OneLine, unsigned]

end Double

namespace Node

theorem oneLine_numberText (value : Double) : OneLine (numberText value) := by
  unfold numberText
  split
  next => exact Double.oneLine_text _ value
  next => exact Double.oneLine_text _ value

/-! ### Lines -/

theorem indent_append (more level : Nat) : indent more ++ indent level = indent (level + more) := by
  simp only [indent, ← String.ofList_append, List.replicate_append_replicate]
  congr 2
  omega

theorem oneLine_indent (level : Nat) : OneLine (indent level) := by
  simp [OneLine, indent]

theorem indentedBy_line (more : Nat) {line : String} (single : OneLine line) :
    indentedBy (2 * more) (line ++ "\n") = line ++ "\n" ++ indent more :=
  Text.indentedBy_line single (2 * more)

theorem indentedBy_lineEnd {α : Type} (more : Nat) (following : List α) :
    indentedBy (2 * more) (lineEnd following) = lineEnd following ++ indent more := by
  have nothing : OneLine "" := by simp [OneLine]
  have comma : OneLine "," := by simp [OneLine]
  unfold lineEnd
  split
  next => exact indentedBy_line more nothing
  next => exact indentedBy_line more comma

/-- A line with a value, before lines that are known to be moved. -/
theorem indentedBy_lines {α : Type} {more : Nat} {lead later deeper : String}
    (single : OneLine lead) (value : String) (following : List α)
    (moved : indent more ++ indentedBy (2 * more) later = deeper ++ indent more) :
    indent more ++ indentedBy (2 * more) (lead ++ value ++ lineEnd following ++ later) =
      indent more ++ lead ++ indentedBy (2 * more) value ++ lineEnd following ++ deeper ++
        indent more := by
  simp only [Text.indentedBy_append, Text.indentedBy_of_oneLine single, indentedBy_lineEnd,
    String.append_assoc, moved]

/-- Lines between brackets of their own. -/
theorem indentedBy_enclosed {more : Nat} {opening lines deeper closing : String}
    (before : OneLine opening) (after : OneLine closing) (level : Nat)
    (moved : indent more ++ indentedBy (2 * more) lines = deeper ++ indent more) :
    indentedBy (2 * more) (opening ++ "\n" ++ lines ++ (indent level ++ closing)) =
      opening ++ "\n" ++ deeper ++ (indent (level + more) ++ closing) := by
  have last : OneLine (indent level ++ closing) :=
    Text.oneLine_append_iff.mpr ⟨oneLine_indent level, after⟩
  -- The spaces after the last line end stand in front of the closing bracket.
  calc indentedBy (2 * more) (opening ++ "\n" ++ lines ++ (indent level ++ closing))
    _ = opening ++ "\n" ++ (indent more ++ indentedBy (2 * more) lines) ++
          (indent level ++ closing) := by
      rw [Text.indentedBy_append, Text.indentedBy_append, indentedBy_line more before,
        Text.indentedBy_of_oneLine last]
      simp only [String.append_assoc]
    _ = opening ++ "\n" ++ deeper ++ (indent more ++ indent level ++ closing) := by
      rw [moved]
      simp only [String.append_assoc]
    _ = opening ++ "\n" ++ deeper ++ (indent (level + more) ++ closing) := by
      rw [indent_append]

/-! ### Values on deeper levels -/

theorem shown_add_of_oneLine {node : Node} {text : String}
    (shows : ∀ level, node.shown level = text) (single : OneLine text) (more level : Nat) :
    node.shown (level + more) = indentedBy (2 * more) (node.shown level) := by
  rw [shows, shows, Text.indentedBy_of_oneLine single]

variable (more : Nat)

-- The starts and places are free, for they are those of texts of different lengths.
mutual

/-- The text of a value that is written deeper has further spaces on all lines after the first. -/
theorem shown_add : ∀ (node : Node) (level : Nat),
    node.shown (level + more) = indentedBy (2 * more) (node.shown level)
  | null, level | array [], level | record [], level =>
    shown_add_of_oneLine (fun _ => rfl) (by simp [OneLine]) more level
  | boolean value, level =>
    shown_add_of_oneLine (fun _ => rfl) (Json.oneLine_booleanText value) more level
  | integer value, level =>
    shown_add_of_oneLine (fun _ => rfl) (Json.oneLine_integerText value.toInt) more level
  | number value, level =>
    shown_add_of_oneLine (fun _ => rfl) (oneLine_numberText value) more level
  | string text, level =>
    shown_add_of_oneLine (fun _ => rfl) (Json.oneLine_quoted text) more level
  | array (first :: rest), level => by
    have moved := join_writeItems_add (first :: rest) level 0 0 0
    have opening : OneLine "[" := by simp [OneLine]
    have closing : OneLine "]" := by simp [OneLine]
    rw [shown_array _ [] 0, shown_array _ [] 0]
    exact (indentedBy_enclosed opening closing level moved).symm
  | record (first :: rest), level => by
    have moved := join_writeFields_add (first :: rest) level 0 0
    have opening : OneLine "\x7b" := by simp [OneLine]
    have closing : OneLine "\x7d" := by simp [OneLine]
    rw [shown_record _ [] 0, shown_record _ [] 0]
    exact (indentedBy_enclosed opening closing level moved).symm

/-- Lines begin with spaces, so further ones before a line are those after the line before it. -/
theorem join_writeItems_add : ∀ (items : List Node) (level position start place : Nat),
    indent more ++ indentedBy (2 * more)
        (String.join (writeItems level [] position start items).parts) =
      String.join (writeItems (level + more) [] position place items).parts ++ indent more
  | [], _, _, _, _ => by
    simp [writeItems, indentedBy]
  | item :: rest, level, position, start, place => by
    simp only [writeItems, text_write_eq_shown, String.join_cons]
    rw [indentedBy_lines (oneLine_indent _) _ _ (join_writeItems_add rest level _ _ _),
      indent_append, ← shown_add item (level + 1), Nat.add_right_comm level 1 more]

theorem join_writeFields_add : ∀ (fields : List (String × Node)) (level start place : Nat),
    indent more ++ indentedBy (2 * more)
        (String.join (writeFields level [] start fields).parts) =
      String.join (writeFields (level + more) [] place fields).parts ++ indent more
  | [], _, _, _ => by
    simp [writeFields, indentedBy]
  | (key, value) :: rest, level, start, place => by
    have single : OneLine (indent (level + 1) ++ Json.quoted key ++ ": ") := by
      refine Text.oneLine_append_iff.mpr ⟨?_, by simp [OneLine]⟩
      exact Text.oneLine_append_iff.mpr ⟨oneLine_indent _, Json.oneLine_quoted key⟩
    have lead : indent more ++ (indent (level + 1) ++ Json.quoted key ++ ": ") =
        indent (level + more + 1) ++ Json.quoted key ++ ": " := by
      rw [Nat.add_right_comm level more, ← indent_append more (level + 1)]
      simp only [String.append_assoc]
    simp only [writeFields, text_write_eq_shown, String.join_cons]
    rw [indentedBy_lines single _ _ (join_writeFields_add rest level _ _), lead,
      ← shown_add value (level + 1), Nat.add_right_comm level 1 more]

end

end Node

end DocSchema
