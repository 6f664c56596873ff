import PocketSql.Proofs.Session
import PocketSql.Proofs.Statement.Places
import PocketSql.Proofs.Token.Respelling
import PocketSql.Proofs.Token.Seam
/-!
# Scripts one directly after the other

A script ends with a semicolon, and no word goes on from one. So the text of another script can
stand directly behind it: each of the two is read as it is by itself, and the two are run one after
the other.
-/

namespace PocketSql

open Grammar

section Texts

variable {a b : String} {tokens others : List Token} {first second : Script}

theorem IsWord.before_any {mark : Symbol} (hmark : mark ∈ Symbol.punctuation) {chars : List Char}
    (h : IsWord [] chars mark.spelling .symbol) (rest : List Char) :
    IsWord rest chars mark.spelling .symbol := by
  have hchars : chars = mark.spelling.toList := h.respells
  rw [hchars]
  exact .symbol (mark.endsBefore_of_punctuation hmark rest)

/-- A text whose last token is a mark of punctuation stays apart from any text behind it. -/
theorem Piece.Cut.before_any {pieces : List Piece} {mark : Symbol}
    (hmark : mark ∈ Symbol.punctuation) (h : Piece.Cut [] pieces)
    (hlast : ∀ token, (Piece.tokens [] pieces).getLast? = some token →
      Stands (.symbol mark) token) (rest : List Char) : Piece.Cut rest pieces := by
  refine h.goesOn fun chars value kind hword => ?_
  obtain ⟨front, rfl⟩ := List.getLast?_eq_some_iff.mp hword
  have htoken : (Piece.tokens [] (front ++ [.word chars value kind])).getLast? =
      some ⟨value, kind, .past (Piece.text front)⟩ := by
    rw [Piece.tokens_before_append, List.nil_append]
    exact List.getLast?_concat
  obtain ⟨rfl, rfl⟩ := hlast _ htoken
  obtain ⟨_, hend⟩ := h.split
  cases hend with
  | word hword _ => exact hword.before_any hmark rest

/-- **A text that ends with a punctuation mark is read apart from the next one.** -/
theorem lex_append {mark : Symbol} (hmark : mark ∈ Symbol.punctuation) (ha : lex a = .ok tokens)
    (hlast : ∀ token, tokens.getLast? = some token → Stands (.symbol mark) token)
    (hb : lex b = .ok others) :
    lex (a ++ b) = .ok (tokens ++ others.map (Token.behind a.toList)) := by
  obtain ⟨front, hfront, rfl, hcut⟩ := lex_eq_ok_iff.mp ha
  obtain ⟨back, hback, rfl, hcut'⟩ := lex_eq_ok_iff.mp hb
  have hsource : (a ++ b).toList = Piece.text (front ++ back) := by
    rw [String.toList_append, Piece.text_append, hfront, hback]
  have happart := hcut.before_any hmark hlast (Piece.text back ++ [])
  rw [lex_of_cut hsource (happart.append hcut'), Piece.tokens_append, hfront]

theorem parse_append (ha : parse a = .ok first) (hb : parse b = .ok second) :
    ∃ script, parse (a ++ b) = .ok script ∧
      script.unlocated = Script.unlocated (first ++ second) := by
  obtain ⟨tokens, hlex, hfirst⟩ := parse_eq_ok_iff.mp ha
  obtain ⟨others, hlex', hsecond⟩ := parse_eq_ok_iff.mp hb
  have hjoined := lex_append (by decide) hlex hfirst.getLast? hlex'
  apply parse_of_map_unlocated (hfirst.append hsecond) hjoined
  rw [List.map_append, List.map_append, map_unlocated_behind]

end Texts

/-- **Scripts compose by concatenation.** The text of a script with another one directly behind it
is the text of both, up to the places of tokens. It runs as the first does, and then, if that
succeeds, as the second does on the store that the first one left. -/
theorem execute_append {a b : String} {first second : Script} (ha : parse a = .ok first)
    (hb : parse b = .ok second) :
    (∃ script, parse (a ++ b) = .ok script ∧
      script.unlocated = Script.unlocated (first ++ second)) ∧
    ∀ store : Store,
      let before := Session.execute a store
      let after := Session.execute b before.state
      let joined := Session.execute (a ++ b) store
      match before.answer, after.answer with
      | .error error, _ => joined.answer = .error error ∧ joined.state = before.state
      | .ok _, .error error => joined.answer = .error error ∧ joined.state = after.state
      | .ok answers, .ok others =>
          joined.answer = .ok (answers ++ others) ∧ joined.state = after.state := by
  obtain ⟨script, hparse, hscript⟩ := parse_append ha hb
  refine ⟨⟨script, hparse, hscript⟩, fun store => ?_⟩
  intro before after joined
  obtain ⟨hanswer, hstate⟩ := Session.execute_of_parse hparse store
  rw [Store.executeAll_congr hscript] at hanswer hstate
  obtain ⟨hbefore, hmiddle⟩ := Session.execute_of_parse ha store
  obtain ⟨hafter, hlast⟩ := Session.execute_of_parse hb before.state
  cases hfirst : before.answer with
  | error error =>
      have hfails := hbefore.symm.trans hfirst
      rw [Engine.executeAll_append_of_error hfails] at hanswer hstate
      exact ⟨hanswer.trans hfails, hstate.trans hmiddle.symm⟩
  | ok answers =>
      have happend := Engine.executeAll_append_of_ok (hbefore.symm.trans hfirst) second
      have hsame : (Engine.executeAll store first).state = before.state := hmiddle.symm
      rw [happend, hsame, ← hafter] at hanswer
      rw [happend, hsame, ← hlast] at hstate
      change joined.answer = after.answer.map (answers ++ ·) at hanswer
      cases hsecond : after.answer with
      | error error =>
          rw [hsecond] at hanswer
          exact ⟨hanswer, hstate⟩
      | ok others =>
          rw [hsecond] at hanswer
          exact ⟨hanswer, hstate⟩

/-- A table is made, and the next text selects from another one. -/
theorem execute_append_missing :
    let a := "CREATE TABLE t (a INT);"
    let b := "SELECT a FROM u;"
    let t : Token := ⟨"t", .identifier, ⟨0, 13⟩⟩
    let column : ColumnDefinition := ⟨⟨"a", .identifier, ⟨0, 16⟩⟩, ⟨"int", .keyword, ⟨0, 18⟩⟩⟩
    let query : Select := ⟨[.literal ⟨"a", .identifier, ⟨0, 7⟩⟩], some ⟨"u", .identifier, ⟨0, 14⟩⟩⟩
    let before := Session.execute a Store.empty
    let joined := Session.execute (a ++ b) Store.empty
    parse a = .ok [.createTable ⟨t, [column]⟩] ∧ parse b = .ok [.select query] ∧
      (∃ script, parse (a ++ b) = .ok script ∧
        script.unlocated = Script.unlocated [.createTable ⟨t, [column]⟩, .select query]) ∧
      before.answer = .ok [.tableCreated "t"] ∧
      joined.answer = .error (.tableDoesNotExist "u") ∧
      joined.state = (Session.execute b before.state).state := by
  intro a b t column query before joined
  have ha : parse a = .ok [.createTable ⟨t, [column]⟩] := by decide +kernel
  have hb : parse b = .ok [.select query] := by decide +kernel
  have hbefore : before.answer = .ok [.tableCreated "t"] := by decide +kernel
  have hafter : (Session.execute b before.state).answer = .error (.tableDoesNotExist "u") := by
    decide +kernel
  obtain ⟨hscript, hrun⟩ := execute_append ha hb
  have hjoined := hrun Store.empty
  dsimp only at hjoined
  rw [hbefore, hafter] at hjoined
  exact ⟨ha, hb, hscript, hbefore, hjoined⟩

end PocketSql
