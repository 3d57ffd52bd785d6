import Stencil.Proofs.Concatenation.Parts
import Stencil.Proofs.Relocation.Same

/-!
# Erased positions

Positions are erased by a relocation of their own, so trees that are the same up to
positions are equal once they are erased, and what is known of moved trees holds of
erased ones.  Erasing undoes every relocation that keeps the names of sources.
-/

namespace Stencil

namespace Relocation

/-- One relocation and then another one. -/
def trans (first second : Relocation) : Relocation where
  map position := second.map (first.map position)
  map_synthetic label := by rw [first.map_synthetic, second.map_synthetic]

/-- A relocation keeps the names of sources. -/
def KeepsNames (relocation : Relocation) : Prop :=
  ∀ position, (relocation.map position).name = position.name

theorem keepsNames_stay : stay.KeepsNames :=
  fun _ => rfl

theorem keepsNames_behind (text : Text) : (behind text).KeepsNames := by
  intro position
  rw [behind]
  dsimp only
  split <;> rfl

theorem keepsNames_ahead (text : Text) : (ahead text).KeepsNames := by
  intro position
  rw [ahead]
  dsimp only
  split <;> rfl

variable {relocation first second : Relocation}

theorem KeepsNames.trans
    (former : first.KeepsNames)
    (latter : second.KeepsNames) :
    (first.trans second).KeepsNames :=
  fun position => (latter (first.map position)).trans (former position)

theorem KeepsNames.erase_map
    (keeps : relocation.KeepsNames)
    (position : Position) :
    erase.map (relocation.map position) = erase.map position :=
  congrArg Position.synthetic (keeps position)

end Relocation

variable {relocation : Relocation}

theorem Identifier.erase_moved
    (keeps : relocation.KeepsNames)
    (identifier : Identifier) :
    (identifier.moved relocation).moved .erase = identifier.moved .erase := by
  rw [moved, moved, moved, keeps.erase_map]

theorem Variable.erase_moved
    (keeps : relocation.KeepsNames)
    (path : Variable) :
    (path.moved relocation).moved .erase = path.moved .erase := by
  simp only [moved, Identifier.erase_moved keeps, List.map_map, Function.comp_def]

theorem Reference.erase_moved
    (keeps : relocation.KeepsNames)
    (path : Reference) :
    (path.moved relocation).moved .erase = path.moved .erase := by
  rw [moved, moved, moved, Variable.erase_moved keeps, keeps.erase_map]

theorem Pattern.erase_moved
    (keeps : relocation.KeepsNames)
    (pattern : Pattern) :
    (pattern.moved relocation).moved .erase = pattern.moved .erase := by
  cases pattern with
  | path names => rw [moved, moved, moved, Variable.erase_moved keeps]
  | _ => rfl

namespace Node

mutual

/-- Erasing undoes a relocation that keeps the names of sources. -/
theorem erase_moved
    (keeps : relocation.KeepsNames)
    (node : Node) :
    (node.moved relocation).moved .erase = node.moved .erase := by
  match node with
  | .text .. => simp only [moved, keeps.erase_map]
  | .literal .. => simp only [moved, keeps.erase_map]
  | .reference names => simp only [moved, Reference.erase_moved keeps]
  | .function .. => simp only [moved, keeps.erase_map, Identifier.erase_moved keeps]
  | .apply _ callee argument =>
    simp only [moved, keeps.erase_map, erase_moved keeps callee, erase_moved keeps argument]
  | .selection _ scrutinee alternatives =>
    rw [moved, moved, moved, keeps.erase_map, erase_moved keeps scrutinee,
      erase_alternativesMoved keeps alternatives]
  | .loop _ item source body otherwise =>
    rw [moved, moved, moved, keeps.erase_map, Identifier.erase_moved keeps,
      Reference.erase_moved keeps, erase_moved keeps body, erase_optionalMoved keeps otherwise]
  | .binding _ name value body =>
    simp only [moved, keeps.erase_map, Identifier.erase_moved keeps, erase_moved keeps value,
      erase_moved keeps body]
  | .inclusion _ key context =>
    rw [moved, moved, moved, keeps.erase_map, erase_optionalMoved keeps context]
  | .sequence _ parts =>
    rw [moved, moved, moved, keeps.erase_map, erase_partsMoved keeps parts]
  | .bare _ => simp only [moved, keeps.erase_map]

theorem erase_optionalMoved
    (keeps : relocation.KeepsNames)
    (node : Option Node) :
    optionalMoved .erase (optionalMoved relocation node) = optionalMoved .erase node := by
  match node with
  | none => simp only [optionalMoved]
  | some node => simp only [optionalMoved, erase_moved keeps node]

theorem erase_partsMoved
    (keeps : relocation.KeepsNames)
    (parts : List Node) :
    partsMoved .erase (partsMoved relocation parts) = partsMoved .erase parts := by
  match parts with
  | [] => simp only [partsMoved]
  | part :: rest => simp only [partsMoved, erase_moved keeps part, erase_partsMoved keeps rest]

theorem erase_alternativesMoved
    (keeps : relocation.KeepsNames)
    (alternatives : List (Pattern × Node)) :
    alternativesMoved .erase (alternativesMoved relocation alternatives) =
      alternativesMoved .erase alternatives := by
  match alternatives with
  | [] => simp only [alternativesMoved]
  | (pattern, body) :: rest =>
    simp only [alternativesMoved, Pattern.erase_moved keeps, erase_moved keeps body,
      erase_alternativesMoved keeps rest]

end

end Node

namespace Document

theorem Piece.erase_moved
    (keeps : relocation.KeepsNames)
    (piece : Piece) :
    (piece.moved relocation).moved .erase = piece.moved .erase := by
  cases piece with
  | text position run => simp only [moved, keeps.erase_map]
  | part node => rw [moved, moved, moved, Node.erase_moved keeps]

end Document

end Stencil
