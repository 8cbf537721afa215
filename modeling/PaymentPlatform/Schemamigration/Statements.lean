import PaymentPlatform.Schemamigration.Lexemes

/-! The statements of a migration are its trimmed segments, and a statement that does not
follow a byte outside ASCII is split into itself. -/

namespace PaymentPlatform.Schemamigration

open Framing

variable {E : Engine} {before rest later text : Bytes} {b : UInt8}
  {lexeme : Lexeme} {lexemes : List Lexeme}

theorem Lexeme.At.shorten (here : lexeme.At before (rest ++ later)) : lexeme.At before rest := by
  have head : ∀ {b}, rest.head? = some b → (rest ++ later).head? = some b := by
    intro b found
    obtain ⟨rest', rfl⟩ := List.head?_eq_some_iff.mp found
    rfl
  cases lexeme with
  | byte =>
    obtain ⟨special, line, block, dollar⟩ := here
    refine ⟨special, fun ⟨same, found⟩ => line ⟨same, head found⟩,
      fun ⟨same, found⟩ => block ⟨same, head found⟩, fun opens free => ?_⟩
    by_contra tagged
    obtain ⟨tag, read⟩ := Option.ne_none_iff_exists'.mp tagged
    obtain ⟨⟨rest', parts⟩, again, -⟩ := readDollarTag_some read
    have longer := again (rest' ++ later)
    rw [← List.append_assoc, ← parts, List.cons_append, dollar opens free] at longer
    cases longer
  | semicolon => trivial
  | line => exact ⟨here.1, fun b found => here.2 b (head found)⟩
  | block => exact here
  | dollar => exact here
  | quoted => exact ⟨here.1, here.2.1, fun found => here.2.2 (head found)⟩

theorem Lexed.eq_textOf (lexed : Lexed before rest lexemes) : rest = textOf lexemes := by
  induction lexed with
  | nil => rfl
  | cons _ _ ih => rw [textOf, List.flatMap_cons, ← textOf, ← ih]

theorem Lexed.uncons (lexed : Lexed before rest (lexeme :: lexemes)) :
    ∃ rest', rest = lexeme.text ++ rest' ∧ lexeme.At before rest' ∧
      Lexed (lexeme.text.reverse ++ before) rest' lexemes := by
  cases lexed with
  | cons here lexed => exact ⟨_, rfl, here, lexed⟩

theorem groups_cons (other : lexeme ≠ .semicolon) :
    groups (lexeme :: lexemes) = (lexeme :: (groups lexemes).1, (groups lexemes).2) := by
  cases lexeme <;> first | rfl | exact absurd rfl other

theorem groups_flatten (lexemes : List Lexeme) :
    (groups lexemes).1 ++ (groups lexemes).2.flatten = lexemes := by
  induction lexemes with
  | nil => rfl
  | cons lexeme lexemes ih =>
    by_cases semicolon : lexeme = .semicolon
    · rw [semicolon, groups, List.flatten_cons, ih, List.singleton_append]
    · rw [groups_cons semicolon, List.cons_append, ih]

theorem segments_flatten (lexemes : List Lexeme) : (segments lexemes).flatten = textOf lexemes := by
  have joined : ∀ parts : List (List Lexeme), (parts.map textOf).flatten = textOf parts.flatten := by
    intro parts
    induction parts with
    | nil => rfl
    | cons part parts ih =>
      rw [List.map_cons, List.flatten_cons, ih, List.flatten_cons, textOf, textOf, textOf,
        List.flatMap_append]
  rw [segments, List.flatten_cons, joined, textOf, textOf, ← List.flatMap_append, groups_flatten,
    textOf]

theorem Lexed.groups (lexed : Lexed before rest lexemes) :
    Lexed before (textOf (groups lexemes).1) (groups lexemes).1 ∧
      ∀ group ∈ (groups lexemes).2, ∃ before', Lexed (59 :: before') (textOf group) group := by
  induction lexed with
  | nil => exact ⟨.nil, by simp [Schemamigration.groups]⟩
  | @cons before rest lexeme lexemes here lexed ih =>
    by_cases semicolon : lexeme = .semicolon
    · subst semicolon
      refine ⟨.cons trivial .nil, fun group member => ?_⟩
      rcases List.mem_cons.mp member with rfl | later
      · exact ⟨before, ih.1⟩
      · exact ih.2 group later
    · rw [groups_cons semicolon]
      have parts : rest = textOf (Schemamigration.groups lexemes).1 ++
          textOf (Schemamigration.groups lexemes).2.flatten := by
        rw [textOf, textOf, ← List.flatMap_append, groups_flatten, lexed.eq_textOf, textOf]
      exact ⟨.cons (parts ▸ here).shorten ih.1, ih.2⟩

theorem Lexeme.At.blank (here : lexeme.At before rest) (same : lexeme.text ++ rest = b :: later)
    (blank : b ∈ spaces.flatten) : lexeme = .byte b ∧ rest = later := by
  have ordinary : ∀ b ∈ spaces.flatten, b ∉ [59, 45, 47, 36, 39, 34] := by decide +kernel
  have other := ordinary b blank
  cases lexeme with
  | byte =>
    obtain ⟨rfl, rfl⟩ := List.cons.inj same
    exact ⟨rfl, rfl⟩
  | semicolon => exact absurd (List.cons.inj same).1 (by rintro rfl; simp at other)
  | line => exact absurd (List.cons.inj same).1 (by rintro rfl; simp at other)
  | block => exact absurd (List.cons.inj same).1 (by rintro rfl; simp at other)
  | dollar =>
    obtain ⟨-, -, name, rfl⟩ := readDollarTag_some here.2.1
    exact absurd (List.cons.inj same).1 (by rintro rfl; simp at other)
  | quoted =>
    obtain ⟨rfl, -⟩ := List.cons.inj same
    rcases here.1 with ⟨rfl, -⟩ | ⟨rfl, -⟩ <;> simp at other

theorem Lexed.drop_blank {lead : Bytes} (blank : ∀ b ∈ lead, b ∈ spaces.flatten)
    (lexed : Lexed before (lead ++ text) lexemes) :
    ∃ lexemes', lexemes = lead.map .byte ++ lexemes' ∧ Lexed (lead.reverse ++ before) text lexemes' := by
  induction lead generalizing before lexemes with
  | nil => exact ⟨lexemes, rfl, lexed⟩
  | cons b lead ih =>
    obtain ⟨here, blank⟩ := List.forall_mem_cons.mp blank
    cases lexemes with
    | nil => cases lexed.eq_textOf
    | cons =>
      obtain ⟨rest, same, at_, lexed⟩ := lexed.uncons
      obtain ⟨rfl, rfl⟩ := at_.blank same.symm here
      obtain ⟨lexemes', rfl, lexed'⟩ := ih blank lexed
      refine ⟨lexemes', rfl, ?_⟩
      rw [List.reverse_cons, List.append_assoc]
      exact lexed'

theorem Commented.getLast? {depth : Nat} {body : Bytes} (inside : Commented depth body) :
    body.getLast? = some 47 := by
  induction inside with
  | close => rfl
  | inner _ ih => simp [List.getLast?_cons, ih]
  | outer _ ih => simp [List.getLast?_cons, ih]
  | byte _ _ _ ih => simp [List.getLast?_cons, ih]

theorem readTagName_getLast? {first : Bool} {tag : Bytes} (read : readTagName first text = some tag) :
    tag.getLast? = some 36 := by
  induction text generalizing first tag with
  | nil => cases read
  | cons b text ih =>
    rw [readTagName] at read
    split at read
    · cases read
      rfl
    split at read
    · obtain ⟨name, read', rfl⟩ := Option.map_eq_some_iff.mp read
      simp [List.getLast?_cons, ih read']
    · cases read

theorem Lexeme.At.closed (here : lexeme.At before rest) (last : lexeme.text.getLast? = some b)
    (blank : b ∈ spaces.flatten) : lexeme = .byte b ∨ ∃ body, lexeme = .line body := by
  have ordinary : ∀ b ∈ spaces.flatten, b ∉ [59, 47, 36, 39, 34] := by decide +kernel
  have other := ordinary b blank
  cases lexeme with
  | byte => exact .inl (congrArg _ (Option.some.inj last))
  | semicolon =>
    obtain rfl : 59 = b := Option.some.inj last
    simp at other
  | line body => exact .inr ⟨body, rfl⟩
  | block =>
    rw [Lexeme.text, List.getLast?_cons, List.getLast?_cons, Commented.getLast? here] at last
    obtain rfl : 47 = b := Option.some.inj last
    simp at other
  | dollar =>
    obtain ⟨-, -, name, rfl⟩ := readDollarTag_some here.2.1
    obtain ⟨name', read, same⟩ := Option.map_eq_some_iff.mp here.2.1
    obtain rfl : name' = name := (List.cons.inj same).2
    rw [Lexeme.text, List.getLast?_append, List.getLast?_append, List.getLast?_cons,
      readTagName_getLast? read] at last
    obtain rfl : 36 = b := Option.some.inj last
    simp at other
  | quoted quote =>
    rw [Lexeme.text, List.getLast?_cons, List.getLast?_append] at last
    obtain rfl : quote = b := Option.some.inj last
    rcases here.1 with ⟨rfl, -⟩ | ⟨rfl, -⟩ <;> simp at other

def OneStatement (lexemes : List Lexeme) : Prop := .semicolon ∉ lexemes.dropLast

theorem oneStatement_cons {second : Lexeme} : OneStatement (lexeme :: second :: lexemes) ↔
      lexeme ≠ .semicolon ∧ OneStatement (second :: lexemes) := by
  rw [OneStatement, List.dropLast_cons_cons, List.mem_cons, not_or, eq_comm, OneStatement]

theorem Lexeme.At.cut {trail : Bytes} (here : lexeme.At before rest)
    (parts : lexeme.text = text ++ trail) (blank : ∀ b ∈ trail, b ∈ spaces.flatten) :
    ∃ lexemes, Lexed before text lexemes ∧ lexemes.length ≤ 1 := by
  rcases List.eq_nil_or_concat trail with rfl | ⟨init, b, rfl⟩
  · rw [List.append_nil] at parts
    refine ⟨[lexeme], ?_, le_rfl⟩
    have alone : lexeme.At before ([] ++ rest) := here
    simpa [parts] using Lexed.cons alone.shorten .nil
  have last : lexeme.text.getLast? = some b := by simp [parts]
  rcases here.closed last (blank b (by simp)) with rfl | ⟨body, rfl⟩
  · have empty : text = [] := by
      have := congrArg List.length parts
      simp [Lexeme.text] at this
      exact List.length_eq_zero_iff.mp (by omega)
    exact ⟨[], empty ▸ .nil, by simp⟩
  · have dash : (45 : UInt8) ∉ spaces.flatten := by decide
    rcases text with _ | ⟨c, _ | ⟨d, text⟩⟩
    · exact ⟨[], .nil, by simp⟩
    · have trailing : 45 :: body = init.concat b := (List.cons.inj parts).2
      exact absurd (blank 45 (trailing ▸ List.mem_cons_self)) dash
    · obtain ⟨rfl, rest⟩ := List.cons.inj parts
      obtain ⟨rfl, rfl⟩ := List.cons.inj rest
      have line : (Lexeme.line text).At before [] :=
        ⟨fun member => here.1 (List.mem_append_left _ member), by simp⟩
      refine ⟨[.line text], ?_, le_rfl⟩
      simpa [Lexeme.text] using Lexed.cons line .nil

theorem Lexed.drop_trail {trail : Bytes} (blank : ∀ b ∈ trail, b ∈ spaces.flatten)
    (lexed : Lexed before (text ++ trail) lexemes) (one : OneStatement lexemes) :
    ∃ lexemes', Lexed before text lexemes' ∧ OneStatement lexemes' := by
  induction lexemes generalizing before text with
  | nil =>
    obtain ⟨rfl, -⟩ := List.append_eq_nil_iff.mp lexed.eq_textOf
    exact ⟨[], .nil, by simp [OneStatement]⟩
  | cons lexeme lexemes ih =>
    obtain ⟨rest, same, here, lexed⟩ := lexed.uncons
    rcases List.append_eq_append_iff.mp same with ⟨more, within, rfl⟩ | ⟨more, rfl, rfl⟩
    · -- the text ends inside the lexeme
      obtain ⟨lexemes', lexed', single⟩ := here.cut within fun b member =>
        blank b (List.mem_append_left _ member)
      refine ⟨lexemes', lexed', ?_⟩
      match lexemes', single with
      | [], _ => simp [OneStatement]
      | [_], _ => simp [OneStatement]
    · cases lexemes with
      | nil =>
        obtain ⟨rfl, -⟩ := List.append_eq_nil_iff.mp lexed.eq_textOf
        exact ⟨[lexeme], .cons here.shorten .nil, by simp [OneStatement]⟩
      | cons =>
        obtain ⟨other, one⟩ := oneStatement_cons.mp one
        obtain ⟨lexemes', lexed', one'⟩ := ih lexed one
        refine ⟨lexeme :: lexemes', .cons here.shorten lexed', ?_⟩
        cases lexemes' with
        | nil => simp [OneStatement]
        | cons => exact oneStatement_cons.mpr ⟨other, one'⟩

theorem groups_one (lexemes : List Lexeme) : OneStatement (groups lexemes).1 ∧
    ∀ group ∈ (groups lexemes).2, OneStatement group := by
  induction lexemes with
  | nil => simp [groups, OneStatement]
  | cons lexeme lexemes ih =>
    by_cases semicolon : lexeme = .semicolon
    · rw [semicolon]
      exact ⟨by simp [groups, OneStatement], List.forall_mem_cons.mpr ih⟩
    · rw [groups_cons semicolon]
      refine ⟨?_, ih.2⟩
      cases first : (groups lexemes).1 with
      | nil => simp [OneStatement]
      | cons => exact oneStatement_cons.mpr ⟨semicolon, first ▸ ih.1⟩

theorem groups_of_one (one : OneStatement lexemes) :
    groups lexemes = (lexemes, []) ∨ groups lexemes = (lexemes, [[]]) := by
  induction lexemes with
  | nil => exact .inl rfl
  | cons lexeme lexemes ih =>
    cases lexemes with
    | nil => cases lexeme <;> simp [groups]
    | cons =>
      obtain ⟨other, one⟩ := oneStatement_cons.mp one
      rw [groups_cons other]
      rcases ih one with same | same <;> simp [same]

def neutral (b : UInt8) : Bool := !identifierByte b && b != 38

theorem afterIdentifier_forget (free : neutral b = true) (near : Bytes) :
    afterIdentifier (near ++ b :: before) = afterIdentifier near := by
  simp only [neutral, Bool.and_eq_true, Bool.not_eq_true'] at free
  cases near <;> simp [afterIdentifier, free.1]

theorem escapeStringPrefix_forget (free : neutral b = true) (near : Bytes) :
    escapeStringPrefix (near ++ b :: before) = escapeStringPrefix near := by
  have letters : ∀ c ∈ [101, 69, 38, 117, 85], neutral c = false := by decide +kernel
  have other : ∀ c ∈ [101, 69, 38, 117, 85], (b == c) = false := by
    intro c member
    by_contra same
    rw [(by simpa using same : b = c), letters c member] at free
    cases free
  match near with
  | [] => simp [escapeStringPrefix, other]
  | [a] =>
    have after : afterIdentifier (b :: before) = afterIdentifier [] := afterIdentifier_forget free []
    simp [escapeStringPrefix, other, after]
  | a :: c :: near =>
    rw [List.cons_append, escapeStringPrefix, afterIdentifier_forget free, escapeStringPrefix]
    simp only [List.cons_append, List.head?_cons, List.tail_cons, afterIdentifier_forget free]

theorem Lexeme.At.forget (free : neutral b = true) {near : Bytes}
    (here : lexeme.At (near ++ b :: before) rest) : lexeme.At near rest := by
  cases lexeme with
  | byte =>
    obtain ⟨special, line, block, dollar⟩ := here
    rw [afterIdentifier_forget free] at dollar
    exact ⟨special, line, block, dollar⟩
  | dollar =>
    obtain ⟨clear, inside⟩ := here
    rw [afterIdentifier_forget free] at clear
    exact ⟨clear, inside⟩
  | quoted =>
    obtain ⟨opens, inside⟩ := here
    rw [escapeStringPrefix_forget free] at opens
    exact ⟨opens, inside⟩
  | _ => exact here

theorem Lexed.forget (free : neutral b = true) {near : Bytes}
    (lexed : Lexed (near ++ b :: before) text lexemes) : Lexed near text lexemes := by
  generalize same : near ++ b :: before = context at lexed
  induction lexed generalizing near with
  | nil => exact .nil
  | cons here _ ih =>
    subst same
    exact .cons (here.forget free) (ih (List.append_assoc _ _ _))

theorem split_one (lexed : Lexed [] text lexemes) (one : OneStatement lexemes)
    (trimmed : trimSpace text = text) (some : text ≠ []) :
    split E text = .ok [⟨1, text, E.sha256 text⟩] := by
  have first : appendStatement E [] text = [⟨1, text, E.sha256 text⟩] := by
    simp [appendStatement, trimmed, some]
  have second : appendStatement E [⟨1, text, E.sha256 text⟩] [] = [⟨1, text, E.sha256 text⟩] := rfl
  have result : ((lexemes.foldl (Cursor.take E) ⟨[], [], []⟩).cut E).result =
      [⟨1, text, E.sha256 text⟩] := by
    rw [take_result]
    rcases groups_of_one one with same | same
    · simp [same, ← lexed.eq_textOf, first]
    · simp only [same, ← lexed.eq_textOf, List.nil_append, first]
      exact second
  have scanned : split E text = _ := scan_lexed lexed
  rw [scanned, finish, if_pos (.inl rfl)]
  simp [result]

theorem appendStatement_contents (raws : List Bytes) (result : List Statement) :
    (raws.foldl (appendStatement E) result).map Statement.contents =
      result.map Statement.contents ++ (raws.map trimSpace).filter (· ≠ []) := by
  induction raws generalizing result with
  | nil => simp
  | cons raw raws ih =>
    rw [List.foldl_cons, ih, appendStatement]
    by_cases empty : trimSpace raw = []
    · simp [empty]
    · simp [empty]

/-- Numbered from 1 on, each with the hash of its text. -/
def Numbered (E : Engine) (statements : List Statement) : Prop :=
  statements.map Statement.ordinal = List.range' 1 statements.length ∧
    ∀ statement ∈ statements, statement.checksum = E.sha256 statement.contents

theorem appendStatement_numbered (raws : List Bytes) {result : List Statement}
    (numbered : Numbered E result) : Numbered E (raws.foldl (appendStatement E) result) := by
  induction raws generalizing result with
  | nil => exact numbered
  | cons raw raws ih =>
    refine ih ?_
    simp only [appendStatement]
    split
    · exact numbered
    · refine ⟨?_, fun statement member => ?_⟩
      · rw [List.map_append, numbered.1, List.length_append, List.length_singleton,
          List.range'_1_concat]
        simp [Nat.add_comm]
      · rcases List.mem_append.mp member with old | new
        · exact numbered.2 statement old
        · rw [List.mem_singleton.mp new]

theorem resplit {group : List Lexeme} (lexed : Lexed before (textOf group) group)
    (behind : ∀ b ∈ before.head?, neutral b = true) (one : OneStatement group)
    (some : trimSpace (textOf group) ≠ [])
    (plain : ∀ b ∈ (leadingSpace (textOf group)).getLast?, b < 128) :
    split E (trimSpace (textOf group)) =
      .ok [⟨1, trimSpace (textOf group), E.sha256 (trimSpace (textOf group))⟩] := by
  generalize textOf group = raw at *
  obtain ⟨parts, blank⟩ := leadingSpace_parts raw
  obtain ⟨trail, parts', blank'⟩ := trimRight_parts (trimLeft raw)
  rw [parts] at lexed
  obtain ⟨lexemes, rfl, inner⟩ := lexed.drop_blank blank
  have single : OneStatement lexemes := by
    rcases lexemes.eq_nil_or_concat with rfl | ⟨init, last, rfl⟩
    · simp [OneStatement]
    · rw [OneStatement, List.dropLast_append_of_ne_nil (by simp)] at one
      exact fun member => one (List.mem_append_right _ member)
  rw [parts'] at inner
  obtain ⟨kept, inner', single'⟩ := inner.drop_trail blank' single
  refine split_one ?_ single' (trimSpace_trimSpace raw) some
  -- forget what stood before the statement
  rcases List.eq_nil_or_concat (leadingSpace raw) with none | ⟨init, last, lead⟩
  · rw [none, List.reverse_nil, List.nil_append] at inner'
    cases before with
    | nil => exact inner'
    | cons b => exact Lexed.forget (behind b rfl) inner'
  · have ascii : ∀ b ∈ spaces.flatten, b < 128 → neutral b = true := by decide +kernel
    rw [lead, List.concat_eq_append, List.reverse_append] at inner'
    refine Lexed.forget (ascii last (blank last ?_) (plain last ?_)) inner'
    · simp [lead]
    · simp [lead]

/-- The statements of an accepted input are its trimmed segments, which together are the
input; the text of a statement that does not follow a byte outside ASCII is split into that
statement. -/
theorem split_segments (E : Engine) (contents : Bytes) (statements : List Statement)
    (accepted : split E contents = .ok statements) :
    (∃ lexemes, Lexed [] contents lexemes) ∧ ∀ lexemes, Lexed [] contents lexemes →
      (segments lexemes).flatten = contents ∧
      statements.map Statement.contents = ((segments lexemes).map trimSpace).filter (· ≠ []) ∧
      Numbered E statements ∧
      ∀ raw ∈ segments lexemes, trimSpace raw ≠ [] →
        (∀ b ∈ (leadingSpace raw).getLast?, b < 128) →
        split E (trimSpace raw) = .ok [⟨1, trimSpace raw, E.sha256 (trimSpace raw)⟩] := by
  refine ⟨lexed_of_scan accepted, fun lexemes lexed => ?_⟩
  have result : (segments lexemes).foldl (appendStatement E) [] = statements := by
    have scanned : split E contents = _ := scan_lexed lexed
    rw [accepted, finish, if_pos (.inl rfl), take_result] at scanned
    dsimp only at scanned
    split at scanned
    · cases scanned
    · exact (Except.ok.inj scanned).symm
  refine ⟨?_, ?_, ?_, fun raw member some plain => ?_⟩
  · rw [segments_flatten, lexed.eq_textOf]
  · rw [← result, appendStatement_contents]
    rfl
  · rw [← result]
    exact appendStatement_numbered _ ⟨rfl, by simp⟩
  · obtain ⟨first, others⟩ := lexed.groups
    obtain ⟨one, ones⟩ := groups_one lexemes
    rcases List.mem_cons.mp member with rfl | later
    · exact resplit first (by simp) one some plain
    · obtain ⟨group, inside, rfl⟩ := List.mem_map.mp later
      obtain ⟨before, lexed⟩ := others group inside
      exact resplit lexed (by simp; decide) (ones group inside) some plain

def sampleMigration : Bytes := ascii "SELECT ';'; -- a;b\n DO $f$ ; $f$;"

theorem sample_migration_segments :
    ∃ statements, split sampleEngine sampleMigration = .ok statements ∧
      ∀ lexemes, Lexed [] sampleMigration lexemes →
        (segments lexemes).flatten = sampleMigration ∧
        [ascii "SELECT ';';", ascii "-- a;b\n DO $f$ ; $f$;"] =
          ((segments lexemes).map trimSpace).filter (· ≠ []) := by
  refine ⟨_, rfl, fun lexemes lexed => ?_⟩
  obtain ⟨whole, contents, -⟩ := (split_segments sampleEngine sampleMigration _ rfl).2 lexemes lexed
  exact ⟨whole, contents⟩

/-- A statement keeps its semicolon, a semicolon alone is a statement, and white space outside
ASCII hides a dollar quote that its statement begins with. -/
theorem wide_space_changes_statement :
    (split sampleEngine (ascii "a;;")).map (List.map Statement.contents) =
        .ok [ascii "a;", ascii ";"] ∧
      (split sampleEngine (0xC2 :: 0xA0 :: ascii "$$;")).map (List.map Statement.contents) =
        .ok [ascii "$$;"] ∧
      split sampleEngine (ascii "$$;") = .error .unterminated := by
  refine ⟨?_, ?_, ?_⟩ <;> rfl

end PaymentPlatform.Schemamigration
