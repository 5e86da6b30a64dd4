import BindingStubs.Proofs.Keyed
import BindingStubs.Proofs.Text.Replacing
import BindingStubs.Resolution.Resolver

namespace BindingStubs

/-!
# References in the texts of rules

The texts of a rule refer to parameters by names in braces.  A text is read as a list of such
references and of single characters.  No two references overlap, so that replacing the references
to one name, looking for them and renaming them act on this list piece by piece.
-/

/-- A piece of a text: a name in braces, or a character that belongs to no such name. -/
inductive Piece where
  | reference (name : String)
  | symbol (character : Char)
  deriving Repr, DecidableEq

/-- A text without braces. -/
def Braceless
    (text : List Char) :
    Prop :=
  ∀ character ∈ text, character ≠ '\x7b' ∧ character ≠ '\x7d'

instance
    (text : List Char) :
    Decidable (Braceless text) :=
  List.decidableBAll _ _

namespace Piece

/-- The characters of a piece. -/
def spell : Piece → List Char
  | .reference name => TypeRule.placeholder name
  | .symbol character => [character]

/-- The same piece with another name, if it is a reference. -/
def rename
    (change : String → String) :
    Piece → Piece
  | .reference name => .reference (change name)
  | .symbol character => .symbol character

/-- The characters before the first closing brace and the pieces behind it, if only characters
that are no braces stand before it. -/
def closing? : List Piece → Option (List Char × List Piece)
  | .symbol character :: rest =>
      if character = '\x7d' then some ([], rest)
      else if character = '\x7b' then none
      else (closing? rest).map fun found => (character :: found.1, found.2)
  | _ => none

/-- The pieces of a text. -/
def pieces : List Char → List Piece
  | [] => []
  | character :: rest =>
      if character = '\x7b' then
        match closing? (pieces rest) with
        | some (name, after) => .reference (String.ofList name) :: after
        | none => .symbol character :: pieces rest
      else .symbol character :: pieces rest

/-! ## Reading pieces -/

theorem closing?_append
    {name : List Char}
    (braceless : Braceless name)
    (after : List Piece) :
    closing? (name.map symbol ++ symbol '\x7d' :: after) = some (name, after) := by
  induction name with
  | nil => rfl
  | cons first name inductionHypothesis =>
      obtain ⟨noOpen, noClose⟩ := braceless first (.head _)
      have rest := inductionHypothesis fun other member => braceless other (.tail _ member)
      rw [List.map_cons, List.cons_append, closing?, if_neg noClose, if_neg noOpen, rest]
      rfl

theorem of_closing?
    {list after : List Piece}
    {name : List Char}
    (found : closing? list = some (name, after)) :
    list = name.map symbol ++ symbol '\x7d' :: after ∧ Braceless name := by
  induction list generalizing name with
  | nil => cases found
  | cons piece rest inductionHypothesis =>
      cases piece with
      | reference other => cases found
      | symbol character =>
          rw [closing?] at found
          split at found
          · rename_i closes
            obtain ⟨rfl, rfl⟩ := Prod.mk.inj (Option.some.inj found)
            exact ⟨by rw [closes]; rfl, nofun⟩
          · rename_i noClose
            split at found
            · cases found
            · rename_i noOpen
              obtain ⟨inner, isInner, same⟩ := Option.map_eq_some_iff.mp found
              obtain ⟨rfl, rfl⟩ := Prod.mk.inj same
              obtain ⟨whole, braceless⟩ := inductionHypothesis isInner
              exact ⟨by rw [whole]; rfl, List.forall_mem_cons.mpr ⟨⟨noOpen, noClose⟩, braceless⟩⟩

theorem closing?_map_rename
    (change : String → String)
    (list : List Piece) :
    closing? (list.map (rename change)) =
      (closing? list).map fun found => (found.1, found.2.map (rename change)) := by
  induction list with
  | nil => rfl
  | cons piece rest inductionHypothesis =>
      cases piece with
      | reference name => rfl
      | symbol character =>
          simp only [List.map_cons, rename, closing?, inductionHypothesis]
          split
          · rfl
          · split
            · rfl
            · rw [Option.map_map, Option.map_map]
              rfl

theorem pieces_cons_of_ne
    {character : Char}
    (apart : character ≠ '\x7b')
    (rest : List Char) :
    pieces (character :: rest) = .symbol character :: pieces rest := by
  rw [pieces, if_neg apart]

theorem pieces_append_of_unopened
    {passed : List Char}
    (unopened : ∀ character ∈ passed, character ≠ '\x7b')
    (rest : List Char) :
    pieces (passed ++ rest) = passed.map symbol ++ pieces rest := by
  induction passed with
  | nil => rfl
  | cons first passed inductionHypothesis =>
      rw [List.cons_append, pieces_cons_of_ne (unopened first (.head _)),
        inductionHypothesis fun other member => unopened other (.tail _ member)]
      rfl

theorem placeholder_append
    (name : String)
    (rest : List Char) :
    TypeRule.placeholder name ++ rest = '\x7b' :: (name.toList ++ '\x7d' :: rest) := by
  simp [TypeRule.placeholder]

/-- A placeholder in front of a text is read as a reference. -/
theorem pieces_placeholder_append
    {name : String}
    (braceless : Braceless name.toList)
    (rest : List Char) :
    pieces (TypeRule.placeholder name ++ rest) = .reference name :: pieces rest := by
  have inner :
      pieces (name.toList ++ '\x7d' :: rest) =
        name.toList.map symbol ++ symbol '\x7d' :: pieces rest := by
    rw [pieces_append_of_unopened fun character member => (braceless character member).1,
      pieces_cons_of_ne (by decide)]
  rw [placeholder_append, pieces, if_pos rfl, inner, closing?_append braceless]
  simp

/-- A text is empty, begins with a placeholder, or begins with a character that is read apart. -/
inductive Reading : List Char → Prop where
  | nil :
      Reading []
  | placeholder {name : String} {rest : List Char} :
      Braceless name.toList →
      Reading rest →
      Reading (TypeRule.placeholder name ++ rest)
  | symbol {character : Char} {rest : List Char} :
      pieces (character :: rest) = .symbol character :: pieces rest →
      Reading rest →
      Reading (character :: rest)

/-- Every text can be read from the left. -/
theorem reading
    (text : List Char) :
    Reading text ∧ (pieces text).flatMap spell = text := by
  induction length : text.length using Nat.strongRecOn generalizing text with
  | ind bound inductionHypothesis =>
      cases text with
      | nil => exact ⟨.nil, rfl⟩
      | cons character rest =>
          rw [List.length_cons] at length
          obtain ⟨readingRest, spelledRest⟩ := inductionHypothesis rest.length (by omega) rest rfl
          have apart :
              pieces (character :: rest) = .symbol character :: pieces rest →
              Reading (character :: rest) ∧
                (pieces (character :: rest)).flatMap spell = character :: rest := by
            intro isSymbol
            refine ⟨.symbol isSymbol readingRest, ?_⟩
            rw [isSymbol, List.flatMap_cons, spelledRest]
            rfl
          by_cases opens : character = '\x7b'
          · cases closed : closing? (pieces rest) with
            | none => exact apart (by rw [pieces, if_pos opens, closed])
            | some found =>
                -- What the closing brace ends is spelled by the pieces behind it.
                obtain ⟨whole, braceless⟩ := of_closing? closed
                have isRest : rest = found.1 ++ '\x7d' :: found.2.flatMap spell := by
                  rw [← spelledRest, whole]
                  simp [spell, List.flatMap_map]
                have isPlaceholder :
                    character :: rest =
                      TypeRule.placeholder (String.ofList found.1) ++ found.2.flatMap spell := by
                  rw [placeholder_append, opens, String.toList_ofList, ← isRest]
                have isName : Braceless (String.ofList found.1).toList := by
                  rwa [String.toList_ofList]
                obtain ⟨readingAfter, spelledAfter⟩ :=
                  inductionHypothesis (found.2.flatMap spell).length
                    (by rw [isRest, List.length_append, List.length_cons] at length; omega) _ rfl
                rw [isPlaceholder, pieces_placeholder_append isName, List.flatMap_cons,
                  spelledAfter]
                exact ⟨.placeholder isName readingAfter, rfl⟩
          · exact apart (pieces_cons_of_ne opens rest)

theorem flatMap_spell_pieces
    (text : List Char) :
    (pieces text).flatMap spell = text :=
  (reading text).2

/-- Induction over the references and other characters of a text. -/
theorem reading_induction
    {motive : List Char → Prop}
    (nil : motive [])
    (placeholder :
      ∀ name rest,
        Braceless name.toList → motive rest → motive (TypeRule.placeholder name ++ rest))
    (symbol :
      ∀ character rest,
        pieces (character :: rest) = .symbol character :: pieces rest →
        motive rest →
        motive (character :: rest))
    (text : List Char) :
    motive text := by
  induction (reading text).1 with
  | nil => exact nil
  | placeholder braceless _ inductionHypothesis =>
      exact placeholder _ _ braceless inductionHypothesis
  | symbol isSymbol _ inductionHypothesis => exact symbol _ _ isSymbol inductionHypothesis

/-- A text begins with a placeholder exactly if it is read as a reference first. -/
theorem placeholder_prefix_iff
    {name : String}
    (braceless : Braceless name.toList)
    {text : List Char} :
    TypeRule.placeholder name <+: text ↔ (pieces text).head? = some (.reference name) := by
  constructor
  · rintro ⟨rest, rfl⟩
    rw [pieces_placeholder_append braceless]
    rfl
  · intro isFirst
    rw [← flatMap_spell_pieces text]
    cases read : pieces text with
    | nil =>
        rw [read] at isFirst
        cases isFirst
    | cons piece rest =>
        rw [read] at isFirst
        cases isFirst
        exact List.prefix_append _ _

/-! ## Searching and replacing -/

/-- No placeholder begins at a character that opens none. -/
theorem isPrefixOf_placeholder_eq_false
    {character : Char}
    (apart : character ≠ '\x7b')
    (name : String)
    (rest : List Char) :
    (TypeRule.placeholder name).isPrefixOf (character :: rest) = false := by
  rw [TypeRule.placeholder, List.cons_append, List.isPrefixOf, Bool.and_eq_false_iff]
  exact .inl (by simpa using apart.symm)

theorem isPrefixOf_placeholder_of_symbol
    {name : String}
    (braceless : Braceless name.toList)
    {character : Char}
    {rest : List Char}
    (isSymbol : pieces (character :: rest) = .symbol character :: pieces rest) :
    (TypeRule.placeholder name).isPrefixOf (character :: rest) = false := by
  rw [Bool.eq_false_iff, Ne, List.isPrefixOf_iff_prefix, placeholder_prefix_iff braceless, isSymbol]
  simp

theorem isPrefixOf_placeholder_append
    {name other : String}
    (braceless : Braceless name.toList)
    (braceless' : Braceless other.toList)
    (rest : List Char) :
    (TypeRule.placeholder name).isPrefixOf (TypeRule.placeholder other ++ rest) = true ↔
      name = other := by
  rw [List.isPrefixOf_iff_prefix, placeholder_prefix_iff braceless,
    pieces_placeholder_append braceless']
  simp [eq_comm]

/-- Behind its opening brace a placeholder opens no other. -/
theorem unopened_of_braceless
    {name : List Char}
    (braceless : Braceless name) :
    ∀ character ∈ name ++ ['\x7d'], character ≠ '\x7b' := by
  intro character member
  rcases List.mem_append.mp member with inName | isClose
  · exact (braceless character inName).1
  · rw [List.mem_singleton.mp isClose]
    decide

theorem occursIn_placeholder_append
    {passed : List Char}
    (unopened : ∀ character ∈ passed, character ≠ '\x7b')
    (name : String)
    (rest : List Char) :
    Text.occursIn (TypeRule.placeholder name) (passed ++ rest) =
      Text.occursIn (TypeRule.placeholder name) rest := by
  induction passed with
  | nil => rfl
  | cons first passed inductionHypothesis =>
      rw [List.cons_append, Text.occursIn,
        isPrefixOf_placeholder_eq_false (unopened first (.head _)), Bool.false_or]
      exact inductionHypothesis fun other member => unopened other (.tail _ member)

/-- A text refers to a name if the placeholder occurs in it. -/
theorem occursIn_placeholder_iff
    {name : String}
    (braceless : Braceless name.toList)
    (text : List Char) :
    Text.occursIn (TypeRule.placeholder name) text = true ↔ .reference name ∈ pieces text := by
  induction text using reading_induction with
  | nil => simp [Text.occursIn, TypeRule.placeholder, pieces]
  | placeholder other rest braceless' inductionHypothesis =>
      have atStart := isPrefixOf_placeholder_append braceless braceless' rest
      have behind := occursIn_placeholder_append (unopened_of_braceless braceless') name rest
      rw [List.append_assoc, List.singleton_append] at behind
      rw [pieces_placeholder_append braceless', List.mem_cons, ← inductionHypothesis,
        Piece.reference.injEq, ← atStart, ← behind, placeholder_append, Text.occursIn,
        Bool.or_eq_true]
  | symbol character rest isSymbol inductionHypothesis =>
      rw [isSymbol, List.mem_cons, ← inductionHypothesis, Text.occursIn,
        isPrefixOf_placeholder_of_symbol braceless isSymbol, Bool.false_or]
      simp

theorem replaceAll_append_of_unopened
    {passed : List Char}
    (unopened : ∀ character ∈ passed, character ≠ '\x7b')
    (name : String)
    (replacement rest : List Char) :
    Text.replaceAll (TypeRule.placeholder name) replacement (passed ++ rest) =
      passed ++ Text.replaceAll (TypeRule.placeholder name) replacement rest := by
  induction passed with
  | nil => rfl
  | cons first passed inductionHypothesis =>
      rw [List.cons_append, List.cons_append,
        Text.replaceAll_cons_of_mismatch replacement
          (isPrefixOf_placeholder_eq_false (unopened first (.head _)) name _),
        inductionHypothesis fun other member => unopened other (.tail _ member)]

theorem replaceAll_placeholder_append
    {name other : String}
    (braceless : Braceless name.toList)
    (braceless' : Braceless other.toList)
    (replacement rest : List Char) :
    Text.replaceAll (TypeRule.placeholder name) replacement (TypeRule.placeholder other ++ rest) =
      (if other = name then replacement else TypeRule.placeholder other) ++
        Text.replaceAll (TypeRule.placeholder name) replacement rest := by
  have atStart := isPrefixOf_placeholder_append braceless braceless' rest
  by_cases same : other = name
  · subst same
    rw [if_pos rfl]
    exact Text.replaceAll_append_self _ _ replacement rest
  · rw [if_neg same]
    have notPrefix := Bool.eq_false_iff.mpr (mt atStart.mp (Ne.symm same))
    have behind :=
      replaceAll_append_of_unopened (unopened_of_braceless braceless') name replacement rest
    rw [List.append_assoc, List.singleton_append] at behind
    rw [placeholder_append] at notPrefix ⊢
    rw [Text.replaceAll_cons_of_mismatch replacement notPrefix, behind, TypeRule.placeholder]
    rfl

/-- Replacing a placeholder replaces the references to the name. -/
theorem replaceAll_placeholder
    {name : String}
    (braceless : Braceless name.toList)
    (replacement text : List Char) :
    Text.replaceAll (TypeRule.placeholder name) replacement text =
      (pieces text).flatMap fun piece =>
        if piece = .reference name then replacement else piece.spell := by
  induction text using reading_induction with
  | nil => rfl
  | placeholder other rest braceless' inductionHypothesis =>
      rw [replaceAll_placeholder_append braceless braceless', inductionHypothesis,
        pieces_placeholder_append braceless', List.flatMap_cons]
      simp [spell]
  | symbol character rest isSymbol inductionHypothesis =>
      rw [Text.replaceAll_cons_of_mismatch replacement
          (isPrefixOf_placeholder_of_symbol braceless isSymbol),
        inductionHypothesis, isSymbol, List.flatMap_cons]
      simp [spell]

/-- Renaming references leaves the pieces of a text apart. -/
theorem pieces_flatMap_rename
    {change : String → String}
    (braceless : ∀ name : String, Braceless name.toList → Braceless (change name).toList)
    (text : List Char) :
    pieces ((pieces text).flatMap fun piece => (piece.rename change).spell) =
      (pieces text).map (rename change) := by
  induction text using reading_induction with
  | nil => rfl
  | placeholder name rest isName inductionHypothesis =>
      rw [pieces_placeholder_append isName, List.flatMap_cons, rename, spell,
        pieces_placeholder_append (braceless name isName), inductionHypothesis, List.map_cons]
      rfl
  | symbol character rest isSymbol inductionHypothesis =>
      rw [isSymbol, List.flatMap_cons, List.map_cons, rename, spell, List.singleton_append]
      by_cases opens : character = '\x7b'
      · have unclosed : closing? (pieces rest) = none := by
          cases closed : closing? (pieces rest) with
          | none => rfl
          | some found =>
              rw [pieces, if_pos opens, closed] at isSymbol
              cases isSymbol
        rw [pieces, if_pos opens, inductionHypothesis, closing?_map_rename, unclosed]
        rfl
      · rw [pieces_cons_of_ne opens, inductionHypothesis]

/-- Replacing a placeholder by another one renames the references. -/
theorem pieces_replaceAll_placeholder
    {name other : String}
    (braceless : Braceless name.toList)
    (braceless' : Braceless other.toList)
    (text : List Char) :
    pieces (Text.replaceAll (TypeRule.placeholder name) (TypeRule.placeholder other) text) =
      (pieces text).map (rename fun found => if found = name then other else found) := by
  rw [replaceAll_placeholder braceless]
  have renamed :
      (fun piece : Piece =>
          if piece = .reference name then TypeRule.placeholder other else piece.spell) =
        fun piece => (piece.rename fun found => if found = name then other else found).spell := by
    funext piece
    cases piece with
    | symbol character => simp [rename, spell]
    | reference found =>
        by_cases same : found = name
        · simp [same, rename, spell]
        · simp [same, rename, spell]
  rw [renamed]
  refine pieces_flatMap_rename (fun found isName => ?_) text
  split
  · exact braceless'
  · exact isName

end Piece

/-! ## Renaming references -/

namespace TypeRule

open Piece

/-- The name that a reference has after renaming. -/
def renamed
    (renames : Keyed String)
    (name : String) :
    String :=
  (renames.get? name).getD name

/-- Renaming references one name after the other renames them at once, if no new name is renamed
again. -/
theorem pieces_renameReferences
    {renames : Keyed String}
    (braceless : ∀ entry ∈ renames.entries, Braceless entry.1.toList ∧ Braceless entry.2.toList)
    (fresh : ∀ entry ∈ renames.entries, ∀ other ∈ renames.entries, other.1 ≠ entry.2)
    (text : String) :
    pieces (renameReferences renames text).toList =
      (pieces text.toList).map (rename (renamed renames)) := by
  obtain ⟨entries⟩ := renames
  rw [renameReferences, Text.onCharacters, String.toList_ofList]
  generalize text.toList = characters
  induction entries generalizing characters with
  | nil =>
      have unchanged : rename (renamed ⟨[]⟩) = id := by
        funext piece
        cases piece <;> rfl
      rw [unchanged, List.map_id]
      rfl
  | cons entry rest inductionHypothesis =>
      obtain ⟨isName, isNewName⟩ := braceless entry (.head _)
      have freshRest : ∀ entry ∈ rest, ∀ other ∈ rest, other.1 ≠ entry.2 :=
        fun one member other member' => fresh one (.tail _ member) other (.tail _ member')
      have renamedRest := inductionHypothesis
        (fun other member => braceless other (.tail _ member)) freshRest
        (Text.replaceAll (placeholder entry.1) (placeholder entry.2) characters)
      rw [pieces_replaceAll_placeholder isName isNewName, List.map_map] at renamedRest
      refine renamedRest.trans (List.map_congr_left fun piece _ => ?_)
      cases piece with
      | symbol character => rfl
      | reference name =>
          -- The new name of the first entry is not renamed by the others.
          have kept : (⟨rest⟩ : Keyed String).get? entry.2 = none := by
            rw [← Option.not_isSome_iff_eq_none]
            intro isRenamed
            obtain ⟨again, found⟩ := Option.isSome_iff_exists.mp isRenamed
            exact fresh entry (.head _) _ (.tail _ (Keyed.mem_of_get?_eq_some found)) rfl
          simp only [Function.comp_def, rename, renamed, Keyed.get?_mk_cons]
          by_cases same : name = entry.1
          · simp [same, kept]
          · simp [same]

end TypeRule

/-! ## Filling placeholders -/

namespace Resolution

open Piece

/-- What becomes of a piece when every placeholder that has a replacement is replaced. -/
def fillPiece
    (replacements : List (List Char × List Char)) :
    Piece → List Char
  | .reference name =>
      (replacements.lookup (TypeRule.placeholder name)).getD (TypeRule.placeholder name)
  | .symbol character => [character]

/-- A text with all its references replaced at once. -/
def fillAtOnce
    (replacements : List (List Char × List Char))
    (template : String) :
    List Char :=
  (pieces template.toList).flatMap (fillPiece replacements)

theorem placeholder_injective :
    Function.Injective TypeRule.placeholder := by
  intro name other same
  simpa [TypeRule.placeholder, String.toList_inj] using same

/-- The piece that becomes of a piece when one name is replaced by characters. -/
def insertAt
    (name : String)
    (inserted : List Char)
    (piece : Piece) :
    List Piece :=
  if piece = .reference name then inserted.map symbol else [piece]

/-- What is filled in opens no reference, if no brace that is no reference opens before it. -/
theorem pieces_replaceAll_of_unopened
    {name : String}
    (braceless : Braceless name.toList)
    {inserted : List Char}
    (unopened : ∀ character ∈ inserted, character ≠ '\x7b')
    {text : List Char}
    (tidy : .symbol '\x7b' ∉ pieces text) :
    pieces (Text.replaceAll (TypeRule.placeholder name) inserted text) =
      (pieces text).flatMap (insertAt name inserted) := by
  induction text using reading_induction with
  | nil => rfl
  | placeholder other rest isName inductionHypothesis =>
      rw [pieces_placeholder_append isName] at tidy ⊢
      have filled := inductionHypothesis fun member => tidy (.tail _ member)
      rw [replaceAll_placeholder_append braceless isName, List.flatMap_cons, ← filled]
      by_cases same : other = name
      · rw [if_pos same, pieces_append_of_unopened unopened, insertAt, if_pos (by rw [same])]
      · rw [if_neg same, pieces_placeholder_append isName, insertAt, if_neg (by simp [same])]
        rfl
  | symbol character rest isSymbol inductionHypothesis =>
      rw [isSymbol] at tidy ⊢
      have filled := inductionHypothesis fun member => tidy (.tail _ member)
      have apart : character ≠ '\x7b' := fun opens => tidy (by rw [opens]; exact .head _)
      rw [Text.replaceAll_cons_of_mismatch inserted
          (isPrefixOf_placeholder_of_symbol braceless isSymbol),
        pieces_cons_of_ne apart, List.flatMap_cons, ← filled]
      rfl

/-- Filling one placeholder after the other fills all at once, if neither the texts that are filled
in nor the template have opening braces beside those of references. -/
theorem fill_eq_fillAtOnce
    {replacements : List (List Char × List Char)}
    (placeholders :
      ∀ replacement ∈ replacements,
        ∃ name : String, Braceless name.toList ∧ replacement.1 = TypeRule.placeholder name)
    (unopened : ∀ replacement ∈ replacements, ∀ character ∈ replacement.2, character ≠ '\x7b')
    {template : String}
    (tidy : .symbol '\x7b' ∉ pieces template.toList) :
    fill replacements template = fillAtOnce replacements template := by
  rw [fill, fillAtOnce]
  generalize template.toList = text at tidy ⊢
  induction replacements generalizing text with
  | nil =>
      have unchanged : fillPiece [] = spell := by
        funext piece
        cases piece <;> rfl
      rw [unchanged, flatMap_spell_pieces]
      rfl
  | cons replacement rest inductionHypothesis =>
      obtain ⟨name, braceless, isPlaceholder⟩ := placeholders replacement (.head _)
      have inserted := pieces_replaceAll_of_unopened braceless (unopened replacement (.head _)) tidy
      have tidyInserted :
          .symbol '\x7b' ∉
            pieces (Text.replaceAll (TypeRule.placeholder name) replacement.2 text) := by
        rw [inserted, List.mem_flatMap]
        rintro ⟨piece, member, opens⟩
        rw [insertAt] at opens
        split at opens
        · obtain ⟨character, isInserted, same⟩ := List.mem_map.mp opens
          exact unopened replacement (.head _) character isInserted (Piece.symbol.inj same)
        · exact tidy (List.mem_singleton.mp opens ▸ member)
      have filled := inductionHypothesis (fun other member => placeholders other (.tail _ member))
        (fun other member => unopened other (.tail _ member)) _ tidyInserted
      rw [List.foldl_cons, isPlaceholder, filled, inserted, List.flatMap_assoc]
      congr 1
      funext piece
      cases piece with
      | symbol character => simp [insertAt, fillPiece]
      | reference found =>
          rw [insertAt, fillPiece, List.lookup_cons, isPlaceholder]
          by_cases same : found = name
          · simp [same, fillPiece, List.flatMap_map]
          · have apart : (TypeRule.placeholder found == TypeRule.placeholder name) = false := by
              simpa using fun samePlaceholder => same (placeholder_injective samePlaceholder)
            simp [same, apart, fillPiece]

end Resolution

end BindingStubs
