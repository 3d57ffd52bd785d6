import Stencil.Proofs.Numeral.Grammar
import Stencil.Proofs.Slice

/-!
# Tokens partition a text

The tokens of an expression text leave nothing of it out: the text is the lexemes of
the tokens with blanks between them.  A tile is a token with the lexeme that it was
scanned from and the blanks before that.  One scan lays one tile, and all scans up to
the end of the text lay the whole text with tiles.
-/

namespace Stencil

theorem Text.head?_dropWhile
    (property : CodePoint → Bool)
    (text : Text) :
    ∀ point ∈ (text.dropWhile property).head?, property point = false := by
  intro point isHead
  have stops := List.head?_dropWhile_not property text
  rw [Option.mem_def.1 isHead] at stops
  simpa using stops

/-- The text that is skipped before the next token is blank. -/
theorem Cursor.exists_blanks (cursor : Cursor) :
    ∃ gap : Text, gap.isBlank = true ∧ cursor.rest = gap ++ cursor.skipBlanks.rest := by
  refine ⟨cursor.rest.takeWhile CodePoint.isBlank, List.all_takeWhile, ?_⟩
  rw [rest_skipBlanks, Text.trimStart, List.takeWhile_append_dropWhile]

namespace Token

/-- The style of the lexemes of a kind. -/
def Kind.style? : Kind → Option Style
  | .identifier => some .identifier
  | .operator => some .operator
  | _ => none

theorem Kind.style?_ofPunctuation (point : CodePoint) :
    (Kind.ofPunctuation point).style? = none := by
  unfold Kind.ofPunctuation
  repeat' split
  all_goals rfl

variable
  {cursor behind : Cursor}
  {token : Token}

/-- The longest lexeme of a style begins the text, and what follows cannot extend
it. -/
theorem exists_append_of_lexeme?
    {style : Style}
    {text lexeme : Text}
    (found : style.lexeme? text = some lexeme) :
    ∃ rest, text = lexeme ++ rest ∧ ∀ point ∈ rest.head?, style.isRest point = false := by
  obtain ⟨point, rest, rfl, _, rfl⟩ := exists_of_lexeme? found
  exact ⟨rest.dropWhile style.isRest, by rw [List.cons_append, List.takeWhile_append_dropWhile],
    Text.head?_dropWhile style.isRest rest⟩

/-- The text between a cursor and the one behind its token is the value of the token,
unless that is a string literal. -/
theorem Scans.rest_eq
    (scans : Scans cursor token behind)
    (noString : token.kind ≠ .string) :
    cursor.rest = token.value ++ behind.rest := by
  have begins {lexeme : Text} (found : lexeme <+: cursor.rest) :
      cursor.rest = lexeme ++ (cursor.forward lexeme.length).rest := by
    obtain ⟨rest, whole⟩ := found
    rw [Cursor.rest_forward_of_append whole.symm, whole]
  cases scans with
  | finish => rfl
  | number => exact begins (Numeral.lexeme_begins _)
  | string => exact absurd rfl noString
  | word found | operator found =>
    obtain ⟨rest, whole, _⟩ := exists_append_of_lexeme? found
    exact begins ⟨rest, whole.symm⟩
  | @punctuation point rest unread =>
    exact begins ⟨rest, unread.symm⟩

/-- Words and operators are as long as they can be. -/
theorem Scans.not_isRest
    {style : Style}
    (scans : Scans cursor token behind)
    (isStyle : token.kind.style? = some style) :
    ∀ point ∈ behind.rest.head?, style.isRest point = false := by
  cases scans with
  | word found | operator found =>
    obtain rfl := Option.some.inj isStyle
    obtain ⟨rest, whole, ends⟩ := exists_append_of_lexeme? found
    rw [Cursor.rest_forward_of_append whole]
    exact ends
  | punctuation =>
    rw [kind_located, Kind.style?_ofPunctuation] at isStyle
    cases isStyle
  | _ => cases isStyle

/-! ## Tiles -/

/-- A token with the part of a text that it takes. -/
structure Tile where
  /-- The blanks before the token. -/
  gap : Text
  /-- What the token was scanned from. -/
  lexeme : Text
  /-- The token. -/
  token : Token

namespace Tile

/-- The text that a tile takes. -/
def content (tile : Tile) : Text :=
  tile.gap ++ tile.lexeme

/-- A tile lies in a text: its token has the position of its index, its value is the
lexeme unless it is a string literal, and a word or an operator ends only where the text
has no character that could follow in it. -/
structure Lies (name text : Text) (tile : Tile) : Prop where
  /-- Only blanks are skipped. -/
  blank : tile.gap.isBlank = true
  /-- The lexeme is not empty and begins with no blank. -/
  solid : tile.lexeme.IsSolid
  /-- The token is not the end of the text. -/
  notFinish : tile.token.kind ≠ .finish
  /-- The token stands at its index. -/
  position : tile.token.position = .ofIndex name text tile.token.index
  /-- The value is the lexeme. -/
  value : tile.token.kind ≠ .string → tile.token.value = tile.lexeme
  /-- The lexeme is as long as it can be. -/
  maximal : ∀ style, tile.token.kind.style? = some style →
    ∀ point, text[tile.token.index + tile.lexeme.length]? = some point →
      style.isRest point = false

/-- Each of some tiles, which cover a text from an index on, stands behind the ones
before it, and its lexeme begins at the index of its token. -/
def Cover (index : Nat) (tiles : List Tile) : Prop :=
  ∀ before tile after, tiles = before ++ tile :: after →
    tile.token.index = index + (before.flatMap content).length + tile.gap.length

theorem cover_nil (index : Nat) : Cover index [] :=
  fun before _ _ none => absurd none.symm (List.append_ne_nil_of_right_ne_nil before nofun)

theorem Cover.cons
    {index : Nat}
    {tile : Tile}
    {tiles : List Tile}
    (here : tile.token.index = index + tile.gap.length)
    (others : Cover (index + tile.content.length) tiles) :
    Cover index (tile :: tiles) := by
  intro before other after whole
  cases before with
  | nil =>
    obtain ⟨rfl, rfl⟩ := List.cons.inj whole
    exact here
  | cons first before =>
    obtain ⟨rfl, rest⟩ := List.cons.inj whole
    rw [others before other after rest, List.flatMap_cons, List.length_append]
    omega

theorem Cover.tail
    {index : Nat}
    {tile : Tile}
    {tiles : List Tile}
    (cover : Cover index (tile :: tiles)) :
    Cover (index + tile.content.length) tiles := by
  intro before other after whole
  have there := cover (tile :: before) other after (by rw [whole, List.cons_append])
  rw [there, List.flatMap_cons, List.length_append]
  omega

/-- A tile lies within the text that it covers with others. -/
theorem Cover.within
    {index : Nat}
    {tile : Tile}
    {tiles : List Tile}
    (cover : Cover index tiles)
    (member : tile ∈ tiles) :
    index ≤ tile.token.index ∧
      tile.token.index + tile.lexeme.length ≤ index + (tiles.flatMap content).length := by
  obtain ⟨before, after, rfl⟩ := List.append_of_mem member
  have there := cover before tile after rfl
  simp only [List.flatMap_append, List.flatMap_cons, List.length_append, content]
  omega

/-- The indices of tokens grow along tiles. -/
theorem Cover.pairwise
    {index : Nat}
    {tiles : List Tile}
    (cover : Cover index tiles)
    (solid : ∀ tile ∈ tiles, 0 < tile.lexeme.length) :
    (tiles.map Tile.token).Pairwise (·.index < ·.index) := by
  induction tiles generalizing index with
  | nil => exact .nil
  | cons tile tiles hypothesis =>
    obtain ⟨here, others⟩ := List.forall_mem_cons.1 solid
    refine .cons ?_ (hypothesis cover.tail others)
    rintro token isOther
    obtain ⟨other, member, rfl⟩ := List.mem_map.1 isOther
    have first := cover [] tile tiles rfl
    have further := (cover.tail.within member).1
    simp only [List.flatMap_nil, List.length_nil, content, List.length_append] at first further
    omega

end Tile

/-- The token at the end of a text. -/
def atFinish (name text : Text) : Token :=
  ⟨.finish, [], .ofIndex name text text.length, text.length⟩

/-- Tiles with blanks behind them are a text from an index on. -/
structure Partitions (name text : Text) (index : Nat) (tiles : List Tile) (last : Text) :
    Prop where
  /-- Nothing is left out. -/
  whole : text.drop index = tiles.flatMap Tile.content ++ last
  /-- Nothing but blanks is left behind the tiles. -/
  blank : last.isBlank = true
  /-- Each tile lies in the text. -/
  lies : ∀ tile ∈ tiles, tile.Lies name text
  /-- Each tile lies behind those before it. -/
  cover : Tile.Cover index tiles

/-- Only at the end of a text its end is scanned. -/
theorem Scans.eq_of_finish
    (scans : Scans cursor token behind)
    (isFinish : token.kind = .finish) :
    cursor.rest = [] ∧ token = located cursor .finish [] := by
  cases scans with
  | finish atEnd => exact ⟨atEnd, rfl⟩
  | punctuation => exact absurd isFinish (Kind.ofPunctuation_ne_finish _)
  | _ => cases isFinish

/-- At the end of a text its end is scanned. -/
theorem scan_of_rest_eq_nil
    (atEnd : cursor.rest = []) :
    scan cursor = .ok (located cursor .finish [], cursor) := by
  have stays : cursor.skipBlanks = cursor := by
    rw [Cursor.skipBlanks, atEnd, List.takeWhile_nil, List.length_nil, Cursor.forward_zero]
  rw [scan, stays]
  exact scanHere_eq_ok.2 (.finish atEnd)

/-- A token that is not the end of the text has a lexeme. -/
theorem Scans.exists_lexeme
    (scans : Scans cursor.skipBlanks token behind)
    (notFinish : token.kind ≠ .finish) :
    ∃ lexeme : Text, lexeme.IsSolid ∧ cursor.skipBlanks.rest = lexeme ++ behind.rest := by
  obtain ⟨lexeme, whole⟩ := scans.reaches.exists_append
  refine ⟨lexeme, ?_, whole⟩
  cases lexeme with
  | nil =>
    rcases scanHere_passes (scanHere_eq_ok.2 scans) with ⟨isFinish, _⟩ | ⟨_, passes⟩
    · exact absurd isFinish notFinish
    · exact absurd passes.2 (by rw [whole]; exact Nat.lt_irrefl _)
  | cons point rest =>
    refine ⟨point, rest, rfl, Text.head?_dropWhile CodePoint.isBlank cursor.rest point ?_⟩
    rw [Cursor.rest_skipBlanks, Text.trimStart] at whole
    rw [whole]
    rfl

/-- One scan lays a tile, or only blanks are left. -/
theorem exists_tile_of_scan
    {name text : Text}
    (reached : (Cursor.start name text).Reaches cursor)
    (scanned : scan cursor = .ok (token, behind)) :
    (token = atFinish name text ∧ cursor.rest.isBlank = true) ∨
      ∃ tile : Tile, tile.token = token ∧ tile.Lies name text ∧
        token.index = cursor.index + tile.gap.length ∧
        cursor.rest = tile.content ++ behind.rest := by
  have reachedHere := reached.trans (Cursor.reaches_skipBlanks cursor)
  obtain ⟨within, position, unread⟩ := reachedHere.eq_ofIndex
  obtain ⟨gap, blank, skipped⟩ := cursor.exists_blanks
  have index := (Cursor.reaches_skipBlanks cursor).index_eq skipped
  have scans := scanHere_eq_ok.1 scanned
  by_cases isFinish : token.kind = .finish
  · obtain ⟨atEnd, rfl⟩ := scans.eq_of_finish isFinish
    have isLength : cursor.skipBlanks.index = text.length := by
      rw [unread, List.drop_eq_nil_iff] at atEnd
      exact Nat.le_antisymm within atEnd
    rw [atEnd, List.append_nil] at skipped
    refine .inl ⟨?_, skipped ▸ blank⟩
    rw [located, position, isLength, atFinish]
  · obtain ⟨lexeme, solid, whole⟩ := scans.exists_lexeme isFinish
    refine .inr ⟨⟨gap, lexeme, token⟩, rfl, ⟨blank, solid, isFinish, ?_, ?_, ?_⟩, ?_, ?_⟩
    · rw [scans.position_eq, position, scans.index_eq]
    · intro noString
      exact List.append_cancel_right ((scans.rest_eq noString).symm.trans whole)
    · intro style isStyle point follows
      rw [scans.index_eq, ← List.getElem?_drop, ← unread, whole,
        List.getElem?_append_right (Nat.le_refl _), Nat.sub_self,
        ← List.head?_eq_getElem?] at follows
      exact scans.not_isRest isStyle point follows
    · rw [scans.index_eq, index]
    · rw [skipped, whole, Tile.content, List.append_assoc]

/-- Scanning all tokens scans one and, unless it is the end of the text, all behind
it. -/
theorem scanAll_eq_ok
    {bound : Nat}
    {tokens : List Token}
    (success : scanAll (bound + 1) cursor = .ok tokens) :
    ∃ token behind, scan cursor = .ok (token, behind) ∧
      (token.kind = .finish ∧ tokens = [token] ∨ token.kind ≠ .finish ∧
        ∃ others, scanAll bound behind = .ok others ∧ tokens = token :: others) := by
  simp only [scanAll, Reading.bind_eq_ok, Prod.exists] at success
  obtain ⟨token, behind, scanned, success⟩ := success
  refine ⟨token, behind, scanned, ?_⟩
  split at success
  · rename_i isFinish
    exact .inl ⟨isFinish, (Except.ok.inj success).symm⟩
  · rename_i notFinish
    obtain ⟨others, more, success⟩ := Reading.bind_eq_ok.1 success
    exact .inr ⟨notFinish, others, more, (Except.ok.inj success).symm⟩

/-- All scans from a cursor on lay the text behind it with tiles. -/
theorem exists_partitions_of_scanAll
    {name text : Text}
    {bound : Nat}
    {tokens : List Token}
    (reached : (Cursor.start name text).Reaches cursor)
    (enough : cursor.rest.length < bound)
    (success : scanAll bound cursor = .ok tokens) :
    ∃ tiles last, tokens = tiles.map Tile.token ++ [atFinish name text] ∧
      Partitions name text cursor.index tiles last := by
  induction bound generalizing cursor tokens with
  | zero => exact absurd enough (Nat.not_lt_zero _)
  | succ bound hypothesis =>
    have unread := reached.eq_ofIndex.2.2
    obtain ⟨token, behind, scanned, ⟨isFinish, rfl⟩ | ⟨notFinish, others, more, rfl⟩⟩ :=
      scanAll_eq_ok success
    · rcases exists_tile_of_scan reached scanned with ⟨rfl, blank⟩ | ⟨tile, rfl, lies, _⟩
      · exact ⟨[], cursor.rest, rfl, unread.symm, blank, nofun, Tile.cover_nil _⟩
      · exact absurd isFinish lies.notFinish
    · rcases exists_tile_of_scan reached scanned with
        ⟨rfl, _⟩ | ⟨tile, rfl, lies, index, whole⟩
      · exact absurd rfl notFinish
      · have passes := Reading.token_passes (Reading.token_eq_ok.2 scanned) notFinish
        have index' := passes.1.index_eq whole
        obtain ⟨tiles, last, rfl, further⟩ := hypothesis (reached.trans passes.1)
          (Nat.lt_of_lt_of_le passes.2 (Nat.le_of_lt_succ enough)) more
        have there := (reached.trans passes.1).eq_ofIndex.2.2
        refine ⟨tile :: tiles, last, rfl, ?_, further.blank, ?_, ?_⟩
        · rw [← unread, whole, there, further.whole, List.flatMap_cons, List.append_assoc]
        · exact List.forall_mem_cons.2 ⟨lies, further.lies⟩
        · exact .cons index (index' ▸ further.cover)

/-- The tokens of a text that can be scanned partition it.  The text is blanks and
lexemes in turns, the lexeme of each token begins at its index, and its value is the
lexeme unless it is a string literal; words and operators are as long as they can be.
The last token, and no other, is the end of the text; it stands there.  Each token has
the line, the column and the offset of its index, and the indices grow. -/
theorem list_partitions
    {name text : Text}
    {tokens : List Token}
    (success : list name text = .ok tokens) :
    ∃ tiles last, tokens = tiles.map Tile.token ++ [atFinish name text] ∧
      Partitions name text 0 tiles last ∧
      tokens.Pairwise (·.index < ·.index) := by
  obtain ⟨tiles, last, rfl, partitions⟩ :=
    exists_partitions_of_scanAll (.refl _) (Nat.lt_succ_self _) success
  refine ⟨tiles, last, rfl, partitions, ?_⟩
  have solid (tile : Tile) (member : tile ∈ tiles) : 0 < tile.lexeme.length := by
    obtain ⟨point, rest, same, _⟩ := (partitions.lies tile member).solid
    rw [same]
    exact Nat.zero_lt_succ _
  rw [List.pairwise_append]
  refine ⟨partitions.cover.pairwise solid, List.pairwise_singleton _ _, ?_⟩
  rintro token isToken finish isLast
  obtain ⟨tile, member, rfl⟩ := List.mem_map.1 isToken
  rw [List.mem_singleton.1 isLast]
  have within := (partitions.cover.within member).2
  have whole := congrArg List.length partitions.whole
  have positive := solid tile member
  simp only [Cursor.start, List.drop_zero, List.length_append] at within whole
  change tile.token.index < text.length
  omega

/-- The tokens of a sum, with blanks behind it. -/
theorem list_partitions_of_sum :
    list [] (Text.of "a+ 1 ") = .ok [
      ⟨.identifier, Text.of "a", ⟨[], 1, 1, 0⟩, 0⟩, ⟨.operator, Text.of "+", ⟨[], 1, 2, 1⟩, 1⟩,
      ⟨.number, Text.of "1", ⟨[], 1, 4, 3⟩, 3⟩, ⟨.finish, [], ⟨[], 1, 6, 5⟩, 5⟩] ∧
    ∃ tiles last, Partitions [] (Text.of "a+ 1 ") 0 tiles last ∧ tiles.length = 3 := by
  have success : list [] (Text.of "a+ 1 ") = .ok [
      ⟨.identifier, Text.of "a", ⟨[], 1, 1, 0⟩, 0⟩, ⟨.operator, Text.of "+", ⟨[], 1, 2, 1⟩, 1⟩,
      ⟨.number, Text.of "1", ⟨[], 1, 4, 3⟩, 3⟩, ⟨.finish, [], ⟨[], 1, 6, 5⟩, 5⟩] := by
    decide +kernel
  obtain ⟨tiles, last, laid, partitions, _⟩ := list_partitions success
  have lengths := congrArg List.length laid
  rw [List.length_append, List.length_map] at lengths
  exact ⟨success, tiles, last, partitions, (Nat.succ.inj lengths).symm⟩

end Token

end Stencil
