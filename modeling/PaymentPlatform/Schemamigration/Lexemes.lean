import PaymentPlatform.Schemamigration.Split
import Mathlib.Data.List.TakeWhile

/-! The lexemes of a migration. What Split accepts is a sequence of them, and every sequence
of them is accepted. -/

namespace PaymentPlatform.Schemamigration

open Framing

/-- What may stand between two quotes: doubled quotes, and pairs after a backslash in an
escape string. -/
inductive Quoted (quote : UInt8) (escapes : Bool) : Bytes → Prop
  | nil : Quoted quote escapes []
  | escaped {b body} : escapes = true → Quoted quote escapes body →
      Quoted quote escapes (92 :: b :: body)
  | doubled {body} : Quoted quote escapes body → Quoted quote escapes (quote :: quote :: body)
  | byte {b body} : b ≠ quote → ¬ (escapes = true ∧ b = 92) → Quoted quote escapes body →
      Quoted quote escapes (b :: body)

/-- The rest of a block comment inside so many others, up to its end. -/
inductive Commented : Nat → Bytes → Prop
  | close : Commented 0 [42, 47]
  | inner {depth body} : Commented (depth + 1) body → Commented depth (47 :: 42 :: body)
  | outer {depth body} : Commented depth body → Commented (depth + 1) (42 :: 47 :: body)
  | byte {depth b body} : ¬ (b = 47 ∧ body.head? = some 42) → ¬ (b = 42 ∧ body.head? = some 47) →
      Commented depth body → Commented depth (b :: body)

inductive Lexeme where
  | byte (b : UInt8)
  | semicolon
  | line (body : Bytes)
  | block (body : Bytes)
  | dollar (tag body : Bytes)
  | quoted (quote : UInt8) (escapes : Bool) (body : Bytes)

def Lexeme.text : Lexeme → Bytes
  | .byte b => [b]
  | .semicolon => [59]
  | .line body => 45 :: 45 :: body
  | .block body => 47 :: 42 :: body
  | .dollar tag body => tag ++ (body ++ tag)
  | .quoted quote _ body => quote :: (body ++ [quote])

def Lexeme.At (before : Bytes) (rest : Bytes) : Lexeme → Prop
  | .byte b => b ∉ [39, 34, 59] ∧ ¬ (b = 45 ∧ rest.head? = some 45) ∧
    ¬ (b = 47 ∧ rest.head? = some 42) ∧
    (b = 36 → afterIdentifier before = false → readDollarTag (b :: rest) = none)
  | .semicolon => True
  -- the line feed behind a comment is a byte of its own
  | .line body => 10 ∉ body ∧ ∀ b ∈ rest.head?, b = 10
  | .block body => Commented 0 body
  | .dollar tag body => afterIdentifier before = false ∧ readDollarTag tag = some tag ∧
    ∀ first second, body = first ++ second → second ≠ [] → ¬ tag <+: second ++ tag
  | .quoted quote escapes body =>
    (quote = 39 ∧ escapes = escapeStringPrefix before ∨ quote = 34 ∧ escapes = false) ∧
    Quoted quote escapes body ∧ rest.head? ≠ some quote

inductive Lexed : Bytes → Bytes → List Lexeme → Prop
  | nil {before} : Lexed before [] []
  | cons {before rest lexeme lexemes} : lexeme.At before rest →
      Lexed (lexeme.text.reverse ++ before) rest lexemes →
      Lexed before (lexeme.text ++ rest) (lexeme :: lexemes)

variable {E : Engine} {cursor : Cursor} {before rest body tag : Bytes} {quote : UInt8}
  {escapes : Bool} {depth : Nat} {statements : List Statement}

theorem readTagName_some {first : Bool} {text : Bytes} (read : readTagName first text = some tag) :
    (∃ rest, text = tag ++ rest) ∧ ∀ rest, readTagName first (tag ++ rest) = some tag := by
  induction text generalizing first tag with
  | nil => cases read
  | cons b text ih =>
    rw [readTagName] at read
    split at read
    · rename_i dollar
      cases read
      exact ⟨⟨text, by rw [dollar]; rfl⟩, fun rest => rfl⟩
    split at read
    · rename_i other legal
      obtain ⟨name, read', rfl⟩ := Option.map_eq_some_iff.mp read
      obtain ⟨⟨rest, rfl⟩, again⟩ := ih read'
      refine ⟨⟨rest, rfl⟩, fun rest' => ?_⟩
      rw [List.cons_append, readTagName, if_neg other, if_pos legal, again]
      rfl
    · cases read

theorem readDollarTag_some {text : Bytes} (read : readDollarTag text = some tag) :
    (∃ rest, text = tag ++ rest) ∧ (∀ rest, readDollarTag (tag ++ rest) = some tag) ∧
      ∃ name, tag = 36 :: name := by
  unfold readDollarTag at read
  split at read
  · obtain ⟨name, read', rfl⟩ := Option.map_eq_some_iff.mp read
    obtain ⟨⟨rest, rfl⟩, again⟩ := readTagName_some read'
    exact ⟨⟨rest, rfl⟩, fun rest' => by simp [readDollarTag, again], name, rfl⟩
  · cases read

theorem Cursor.push_push (first second : Bytes) :
    (cursor.push first).push second = cursor.push (first ++ second) := by
  simp [Cursor.push]

theorem scan_skip {mode : Mode} (text : Bytes) :
    scan E mode text.length cursor (text ++ rest) = scan E mode 0 (cursor.push text) rest := by
  induction text generalizing cursor with
  | nil => simp [Cursor.push]
  | cons b text ih =>
    rw [List.length_cons, List.cons_append, scan, ih, Cursor.push_push]
    rfl

theorem scan_inside {mode : Mode} (inside : mode ≠ .plain) (b : UInt8) :
    scan E mode 0 cursor (b :: rest) = scan E (advance cursor.before mode b rest).1
      (advance cursor.before mode b rest).2 (cursor.push [b]) rest := by
  simp [scan, inside]

theorem scan_pair {mode : Mode} (mode' : Mode) {a b : UInt8} (inside : mode ≠ .plain ∨ a ≠ 59)
    (pair : advance cursor.before mode a (b :: rest) = (mode', 1)) :
    scan E mode 0 cursor (a :: b :: rest) = scan E mode' 0 (cursor.push [a, b]) rest := by
  have plain : ¬ (mode = .plain ∧ a = 59) := by
    rintro ⟨rfl, rfl⟩
    simp at inside
  simp [scan, pair, plain, Cursor.push]

theorem scan_quoted (inside : Quoted quote escapes body) (ended : rest.head? ≠ some quote)
    (apart : quote ≠ 92) : scan E (.quoted quote escapes) 0 cursor (body ++ quote :: rest) =
      scan E .plain 0 (cursor.push (body ++ [quote])) rest := by
  induction inside generalizing cursor with
  | nil =>
    rw [List.nil_append, scan_inside (by simp)]
    simp [advance, ended, apart]
  | escaped escape _ ih =>
    rw [List.cons_append, List.cons_append,
      scan_pair (.quoted quote escapes) (.inl (by simp)) (by simp [advance, escape]), ih,
      Cursor.push_push]
    rfl
  | doubled _ ih =>
    rw [List.cons_append, List.cons_append,
      scan_pair (.quoted quote escapes) (.inl (by simp)) (by simp [advance, apart]), ih,
      Cursor.push_push]
    rfl
  | byte other unescaped _ ih =>
    have stays : ∀ rest, advance cursor.before (.quoted quote escapes) _ rest =
        (.quoted quote escapes, 0) := fun rest => by
      rw [advance, if_neg fun pair => unescaped ⟨pair.1, pair.2.1⟩, if_neg other]
    rw [List.cons_append, scan_inside (by simp), stays, ih, Cursor.push_push]
    rfl

theorem quoted_closes {cursor : Cursor} (rest : Bytes)
    (accepted : scan E (.quoted quote escapes) 0 cursor rest = .ok statements) :
    ∃ body rest', rest = body ++ quote :: rest' ∧ Quoted quote escapes body ∧
      rest'.head? ≠ some quote := by
  match rest with
  | [] => cases accepted
  | [b] =>
    rw [scan_inside (by simp)] at accepted
    by_cases close : b = quote
    · exact ⟨[], [], by rw [close]; rfl, .nil, by simp⟩
    · simp [advance, close, scan, finish] at accepted
  | a :: b :: rest =>
    by_cases escape : escapes = true ∧ a = 92
    · rw [scan_pair (.quoted quote escapes) (.inl (by simp)) (by simp [advance, escape])]
        at accepted
      obtain ⟨body, rest', rfl, inside, ended⟩ := quoted_closes rest accepted
      exact ⟨a :: b :: body, rest', rfl, escape.2 ▸ .escaped escape.1 inside, ended⟩
    by_cases close : a = quote
    · by_cases double : b = quote
      · rw [scan_pair (.quoted quote escapes) (.inl (by simp)) (by
          rw [advance, if_neg fun pair => escape ⟨pair.1, pair.2.1⟩, if_pos close]
          exact if_pos (congrArg some double))] at accepted
        obtain ⟨body, rest', rfl, inside, ended⟩ := quoted_closes rest accepted
        refine ⟨a :: b :: body, rest', rfl, ?_, ended⟩
        rw [close, double]
        exact .doubled inside
      · exact ⟨[], b :: rest, by rw [close]; rfl, .nil, by simpa using double⟩
    · rw [scan_inside (by simp), advance, if_neg fun pair => escape ⟨pair.1, pair.2.1⟩,
        if_neg close] at accepted
      obtain ⟨body, rest', same, inside, ended⟩ := quoted_closes (b :: rest) accepted
      exact ⟨a :: body, rest', by rw [same]; rfl, .byte close escape inside, ended⟩

theorem scan_block (inside : Commented depth body) :
    scan E (.block depth) 0 cursor (body ++ rest) = scan E .plain 0 (cursor.push body) rest := by
  induction inside generalizing cursor with
  | close =>
    rw [List.cons_append, List.cons_append, scan_pair .plain (.inl (by simp)) (by simp [advance])]
    rfl
  | @inner depth _ _ ih =>
    rw [List.cons_append, List.cons_append,
      scan_pair (.block (depth + 1)) (.inl (by simp)) (by simp [advance]), ih, Cursor.push_push]
    rfl
  | @outer depth _ _ ih =>
    rw [List.cons_append, List.cons_append,
      scan_pair (.block depth) (.inl (by simp)) (by simp [advance]), ih, Cursor.push_push]
    rfl
  | @byte depth b body opens closes inside ih =>
    have head : (body ++ rest).head? = body.head? := by
      cases inside <;> rfl
    have stays : advance cursor.before (.block depth) b (body ++ rest) = (.block depth, 0) := by
      rw [← head] at opens closes
      exact (if_neg opens).trans (if_neg closes)
    rw [List.cons_append, scan_inside (by simp), stays, ih, Cursor.push_push]
    rfl

theorem block_closes {cursor : Cursor} {depth : Nat} (rest : Bytes)
    (accepted : scan E (.block depth) 0 cursor rest = .ok statements) :
    ∃ body rest', rest = body ++ rest' ∧ Commented depth body := by
  match rest with
  | [] => cases accepted
  | [b] =>
    rw [scan_inside (by simp)] at accepted
    simp [advance, scan, finish] at accepted
  | a :: b :: rest =>
    by_cases opens : a = 47 ∧ b = 42
    · obtain ⟨rfl, rfl⟩ := opens
      rw [scan_pair (.block (depth + 1)) (.inl (by simp)) (by simp [advance])] at accepted
      obtain ⟨body, rest', rfl, inside⟩ := block_closes rest accepted
      exact ⟨47 :: 42 :: body, rest', rfl, .inner inside⟩
    by_cases closes : a = 42 ∧ b = 47
    · obtain ⟨rfl, rfl⟩ := closes
      cases depth with
      | zero => exact ⟨[42, 47], rest, rfl, .close⟩
      | succ depth =>
        rw [scan_pair (.block depth) (.inl (by simp)) (by simp [advance])] at accepted
        obtain ⟨body, rest', rfl, inside⟩ := block_closes rest accepted
        exact ⟨42 :: 47 :: body, rest', rfl, .outer inside⟩
    · have stays : advance cursor.before (.block depth) a (b :: rest) = (.block depth, 0) := by
        refine (if_neg ?_).trans (if_neg ?_)
        · simpa using opens
        · simpa using closes
      rw [scan_inside (by simp), stays] at accepted
      obtain ⟨body, rest', same, inside⟩ := block_closes (b :: rest) accepted
      have head : body.head? = some b := by
        cases inside <;> simp_all
      refine ⟨a :: body, rest', by rw [same]; rfl, .byte ?_ ?_ inside⟩
      · simpa [head] using opens
      · simpa [head] using closes

theorem scan_dollar (named : tag ≠ [])
    (nearest : ∀ first second, body = first ++ second → second ≠ [] → ¬ tag <+: second ++ tag) :
    scan E (.dollar tag) 0 cursor (body ++ (tag ++ rest)) =
      scan E .plain 0 (cursor.push (body ++ tag)) rest := by
  induction body generalizing cursor with
  | nil =>
    obtain ⟨b, name, rfl⟩ := List.exists_cons_of_ne_nil named
    rw [List.nil_append, List.cons_append, scan_inside (by simp)]
    have found : advance cursor.before (.dollar (b :: name)) b (name ++ rest) =
        (.plain, name.length) := by
      simp [advance]
    rw [found, scan_skip, Cursor.push_push]
    rfl
  | cons b body ih =>
    have missing : advance cursor.before (.dollar tag) b (body ++ (tag ++ rest)) =
        (.dollar tag, 0) := by
      refine if_neg fun found => nearest [] (b :: body) rfl (by simp) ?_
      rw [List.isPrefixOf_iff_prefix, ← List.append_assoc, ← List.cons_append, ← List.cons_append]
        at found
      exact (List.isPrefix_append_of_length (by simp; omega)).mp found
    rw [List.cons_append, scan_inside (by simp), missing,
      ih fun first second parts => nearest (b :: first) second (by rw [parts]; rfl),
      Cursor.push_push]
    rfl

theorem dollar_closes (accepted : scan E (.dollar tag) 0 cursor rest = .ok statements) :
    ∃ body rest', rest = body ++ (tag ++ rest') ∧
      ∀ first second, body = first ++ second → second ≠ [] → ¬ tag <+: second ++ tag := by
  induction rest generalizing cursor with
  | nil => cases accepted
  | cons b rest ih =>
    by_cases found : tag <+: b :: rest
    · obtain ⟨rest', same⟩ := found
      refine ⟨[], rest', same.symm, fun first second parts more => ?_⟩
      exact absurd (List.append_eq_nil_iff.mp parts.symm).2 more
    · have missing : advance cursor.before (.dollar tag) b rest = (.dollar tag, 0) :=
        if_neg (by rwa [List.isPrefixOf_iff_prefix])
      rw [scan_inside (by simp), missing] at accepted
      obtain ⟨body, rest', rfl, nearest⟩ := ih accepted
      refine ⟨b :: body, rest', rfl, fun first second parts more within => ?_⟩
      cases first with
      | nil =>
        rw [List.nil_append] at parts
        rw [← parts] at within
        exact found (within.trans ⟨rest', by simp⟩)
      | cons _ first => exact nearest first second (List.cons.inj parts).2 more within

theorem scan_line (one : 10 ∉ body) (ended : ∀ b ∈ rest.head?, b = 10) :
    scan E .line 0 cursor (body ++ rest) = scan E .plain 0 (cursor.push body) rest := by
  induction body generalizing cursor with
  | nil =>
    cases rest with
    | nil => simp [scan, finish, Cursor.push]
    | cons b =>
      obtain rfl : b = 10 := ended b rfl
      simp [scan, advance, Cursor.push]
  | cons b body ih =>
    obtain ⟨other, one⟩ := not_or.mp (List.mem_cons.not.mp one)
    rw [List.cons_append, scan_inside (by simp)]
    simp only [advance, if_neg (Ne.symm other)]
    rw [ih one, Cursor.push_push]
    rfl

def Cursor.take (E : Engine) (cursor : Cursor) : Lexeme → Cursor
  | .semicolon => (cursor.push [59]).cut E
  | lexeme => cursor.push lexeme.text

theorem Cursor.take_before {lexeme : Lexeme} :
    (cursor.take E lexeme).before = lexeme.text.reverse ++ cursor.before := by
  cases lexeme <;> rfl

variable {lexeme : Lexeme} {lexemes : List Lexeme}

theorem Lexeme.At.text_ne_nil (here : lexeme.At before rest) : lexeme.text ≠ [] := by
  cases lexeme with
  | dollar =>
    obtain ⟨-, -, name, rfl⟩ := readDollarTag_some here.2.1
    simp [Lexeme.text]
  | _ => simp [Lexeme.text]

theorem scan_lexeme (here : lexeme.At cursor.before rest) :
    scan E .plain 0 cursor (lexeme.text ++ rest) = scan E .plain 0 (cursor.take E lexeme) rest := by
  cases lexeme with
  | byte b =>
    obtain ⟨special, line, block, dollar⟩ := here
    simp only [List.mem_cons, List.not_mem_nil, or_false, not_or] at special
    have stays : advance cursor.before .plain b rest = (.plain, 0) := by
      simp only [advance, if_neg line, if_neg block, if_neg special.1, if_neg special.2.1]
      split
      · rename_i opens
        rw [dollar opens.1 opens.2]
      · rfl
    simp only [Lexeme.text, List.singleton_append, scan, stays, special.2.2, and_false, if_false]
    rfl
  | semicolon =>
    simp [Lexeme.text, scan, advance, Cursor.take]
  | line =>
    simp only [Lexeme.text, List.cons_append]
    rw [scan_pair .line (.inr (by decide)) (by simp [advance]), scan_line here.1 here.2,
      Cursor.push_push]
    rfl
  | block =>
    simp only [Lexeme.text, List.cons_append]
    rw [scan_pair (.block 0) (.inr (by decide)) (by simp [advance]), scan_block here,
      Cursor.push_push]
    rfl
  | dollar tag body =>
    obtain ⟨free, named, nearest⟩ := here
    obtain ⟨-, read, name, rfl⟩ := readDollarTag_some named
    have opens : advance cursor.before .plain 36 (name ++ (body ++ (36 :: name ++ rest))) =
        (.dollar (36 :: name), name.length) := by
      have again := read (body ++ (36 :: name ++ rest))
      simp only [List.cons_append] at again
      simp [advance, free, again]
    simp only [Lexeme.text, List.cons_append, List.append_assoc] at opens ⊢
    rw [scan]
    simp only [opens]
    rw [if_neg (by decide), scan_skip, Cursor.push_push]
    exact (scan_dollar (by simp) nearest).trans (by rw [Cursor.push_push]; rfl)
  | quoted quote escapes body =>
    obtain ⟨opens, inside, ended⟩ := here
    have quotes : quote ≠ 92 ∧ quote ≠ 59 := by
      rcases opens with ⟨rfl, -⟩ | ⟨rfl, -⟩ <;> decide
    have entered : advance cursor.before .plain quote (body ++ quote :: rest) =
        (.quoted quote escapes, 0) := by
      rcases opens with ⟨rfl, rfl⟩ | ⟨rfl, rfl⟩ <;> simp [advance]
    simp only [Lexeme.text, List.cons_append, List.append_assoc] at entered ⊢
    rw [scan]
    simp only [entered, quotes.2, and_false, if_false, List.nil_append]
    rw [scan_quoted inside ended quotes.1, Cursor.push_push]
    rfl

theorem first_lexeme {b : UInt8} (accepted : scan E .plain 0 cursor (b :: rest) = .ok statements) :
    ∃ (lexeme : Lexeme) (rest' : Bytes), b :: rest = lexeme.text ++ rest' ∧ lexeme.At cursor.before rest' := by
  by_cases line : b = 45 ∧ rest.head? = some 45
  · obtain ⟨rfl, second⟩ := line
    obtain ⟨rest, rfl⟩ := List.head?_eq_some_iff.mp second
    refine ⟨.line (rest.takeWhile (· ≠ 10)), rest.dropWhile (· ≠ 10), ?_, ?_, ?_⟩
    · simp [Lexeme.text]
    · exact fun member => by simpa using List.mem_takeWhile_imp member
    · intro b found
      have stop := List.head?_dropWhile_not (fun b : UInt8 => b ≠ 10) rest
      rw [Option.mem_def.mp found] at stop
      simpa using stop
  by_cases block : b = 47 ∧ rest.head? = some 42
  · obtain ⟨rfl, second⟩ := block
    obtain ⟨rest, rfl⟩ := List.head?_eq_some_iff.mp second
    rw [scan_pair (.block 0) (.inr (by decide)) (by simp [advance])] at accepted
    obtain ⟨body, rest', rfl, inside⟩ := block_closes rest accepted
    exact ⟨.block body, rest', rfl, inside⟩
  by_cases single : b = 39
  · subst single
    have next : advance cursor.before .plain 39 rest =
        (.quoted 39 (escapeStringPrefix cursor.before), 0) := rfl
    simp only [scan, next] at accepted
    obtain ⟨body, rest', rfl, inside, ended⟩ := quoted_closes rest accepted
    exact ⟨.quoted 39 _ body, rest', by simp [Lexeme.text], .inl ⟨rfl, rfl⟩, inside, ended⟩
  by_cases double : b = 34
  · subst double
    have next : advance cursor.before .plain 34 rest = (.quoted 34 false, 0) := rfl
    simp only [scan, next] at accepted
    obtain ⟨body, rest', rfl, inside, ended⟩ := quoted_closes rest accepted
    exact ⟨.quoted 34 false body, rest', by simp [Lexeme.text], .inr ⟨rfl, rfl⟩, inside, ended⟩
  by_cases semicolon : b = 59
  · exact ⟨.semicolon, rest, by rw [semicolon]; rfl, trivial⟩
  by_cases dollar : b = 36 ∧ afterIdentifier cursor.before = false ∧
      readDollarTag (b :: rest) ≠ none
  · obtain ⟨rfl, free, tagged⟩ := dollar
    obtain ⟨tag, read⟩ := Option.ne_none_iff_exists'.mp tagged
    obtain ⟨⟨after, parts⟩, again, name, rfl⟩ := readDollarTag_some read
    obtain rfl : rest = name ++ after := by simpa using parts
    have next : advance cursor.before .plain 36 (name ++ after) = (.dollar (36 :: name), name.length) := by
      simp [advance, free, read]
    rw [scan, next] at accepted
    change scan E (.dollar (36 :: name)) name.length (cursor.push [36]) (name ++ after) = _ at accepted
    rw [scan_skip] at accepted
    obtain ⟨body, rest', rfl, nearest⟩ := dollar_closes accepted
    have whole := again []
    rw [List.append_nil] at whole
    exact ⟨.dollar (36 :: name) body, rest', by simp [Lexeme.text], free, whole, nearest⟩
  · refine ⟨.byte b, rest, rfl, by simp [single, double, semicolon], line, block, ?_⟩
    intro opens free
    by_contra tagged
    exact dollar ⟨opens, free, tagged⟩

/-- The lexemes up to the first semicolon, and those between the others. -/
def groups : List Lexeme → List Lexeme × List (List Lexeme)
  | [] => ([], [])
  | .semicolon :: rest => ([.semicolon], (groups rest).1 :: (groups rest).2)
  | lexeme :: rest => (lexeme :: (groups rest).1, (groups rest).2)

def textOf (lexemes : List Lexeme) : Bytes := lexemes.flatMap Lexeme.text

def segments (lexemes : List Lexeme) : List Bytes :=
  textOf (groups lexemes).1 :: (groups lexemes).2.map textOf

theorem take_result : ((lexemes.foldl (Cursor.take E) cursor).cut E).result =
    ((groups lexemes).2.map textOf).foldl (appendStatement E)
      (appendStatement E cursor.result (cursor.raw ++ textOf (groups lexemes).1)) := by
  induction lexemes generalizing cursor with
  | nil => simp [groups, textOf, Cursor.cut]
  | cons lexeme rest ih =>
    rw [List.foldl_cons, ih]
    cases lexeme <;>
      simp [groups, textOf, Cursor.take, Cursor.cut, Cursor.push, Lexeme.text]

theorem lexed_of_scan (accepted : scan E .plain 0 cursor rest = .ok statements) :
    ∃ lexemes, Lexed cursor.before rest lexemes := by
  induction size : rest.length using Nat.strong_induction_on generalizing cursor rest with
  | _ n ih =>
    cases rest with
    | nil => exact ⟨[], .nil⟩
    | cons =>
      obtain ⟨lexeme, rest', parts, here⟩ := first_lexeme accepted
      have shorter : rest'.length < n := by
        have := List.length_pos_of_ne_nil here.text_ne_nil
        rw [← size, parts, List.length_append]
        omega
      rw [parts, scan_lexeme here] at accepted
      obtain ⟨lexemes, lexed⟩ := ih _ shorter accepted rfl
      rw [Cursor.take_before] at lexed
      exact ⟨lexeme :: lexemes, parts ▸ .cons here lexed⟩

theorem scan_lexed (lexed : Lexed cursor.before rest lexemes) :
    scan E .plain 0 cursor rest = finish E .plain (lexemes.foldl (Cursor.take E) cursor) := by
  generalize same : cursor.before = before at lexed
  induction lexed generalizing cursor with
  | nil => rfl
  | cons here _ ih =>
    subst same
    rw [scan_lexeme here]
    exact ih Cursor.take_before

end PaymentPlatform.Schemamigration
