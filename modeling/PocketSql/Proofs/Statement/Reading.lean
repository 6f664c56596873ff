import PocketSql.Proofs.Statement.Grammar
/-!
# Reading a phrase from the left

What a parser does is said about the tokens that it takes and the one token after them. `Reads`
relates a parser to a set of phrases with their values. When the parser succeeds, what it took is a
phrase. When it fails, what it took before the failure begins a phrase, so the failure is not
reported too late. In both cases the outcome stays the same when everything behind the next token is
replaced, so the failure is not reported too early either: no other continuation helps.

The property is closed under sequencing. A phrase of two parsers in a row is a phrase of the first
and then one of the second. The beginning of a phrase of the first is one of both, because there is
always a phrase of the second to go on with.
-/

namespace PocketSql.Parser

open Grammar

theorem head?_append_congr {rest other : List Token} (h : other.head? = rest.head?)
    (front : List Token) : (front ++ other).head? = (front ++ rest).head? := by
  rw [List.head?_append, List.head?_append, h]

structure Reads {α : Type} (parser : Parser α) (phrase : List Token → α → Prop) : Prop where
  inhabited : ∃ tokens value, phrase tokens value
  ok : ∀ {tokens value rest}, parser tokens = .ok (value, rest) →
    ∃ front, tokens = front ++ rest ∧ phrase front value ∧
      ∀ other : List Token, other.head? = rest.head? →
        parser (front ++ other) = .ok (value, other)
  error : ∀ {tokens failure}, parser tokens = .error failure →
    ∃ front, tokens = front ++ failure.rest ∧
      (∃ more value, phrase (front ++ more) value) ∧
      ∀ other : List Token, other.head? = failure.rest.head? →
        parser (front ++ other) = .error ⟨other, failure.expected⟩

section Sequencing

variable {α β : Type} {parser : Parser α} {next : α → Parser β}

theorem bind_of_ok {tokens rest : List Token} {value : α}
    (h : parser tokens = .ok (value, rest)) : (parser >>= next) tokens = next value rest := by
  change (parser tokens >>= fun pair => next pair.1 pair.2) = _
  rw [h]
  rfl

theorem bind_of_error {tokens : List Token} {failure : ParseFailure}
    (h : parser tokens = .error failure) : (parser >>= next) tokens = .error failure := by
  change (parser tokens >>= fun pair => next pair.1 pair.2) = _
  rw [h]
  rfl

theorem map_of_ok {f : α → β} {tokens rest : List Token} {value : α}
    (h : parser tokens = .ok (value, rest)) : (f <$> parser) tokens = .ok (f value, rest) := by
  rw [← bind_pure_comp, bind_of_ok h]
  rfl

theorem map_of_error {f : α → β} {tokens : List Token} {failure : ParseFailure}
    (h : parser tokens = .error failure) : (f <$> parser) tokens = .error failure := by
  rw [← bind_pure_comp, bind_of_error h]

/-- The phrases of two parsers in a row. -/
def InTurn (first : List Token → α → Prop) (second : α → List Token → β → Prop)
    (tokens : List Token) (value : β) : Prop :=
  ∃ front back middle, tokens = front ++ back ∧ first front middle ∧ second middle back value

variable {first : List Token → α → Prop} {second : α → List Token → β → Prop}

theorem Reads.mono {wider : List Token → α → Prop} (h : parser.Reads first)
    (hwider : ∀ {tokens value}, first tokens value → wider tokens value) :
    parser.Reads wider where
  inhabited := by
    obtain ⟨tokens, value, hphrase⟩ := h.inhabited
    exact ⟨tokens, value, hwider hphrase⟩
  ok hok := by
    obtain ⟨front, htokens, hphrase, hother⟩ := h.ok hok
    exact ⟨front, htokens, hwider hphrase, hother⟩
  error herror := by
    obtain ⟨front, htokens, ⟨more, value, hphrase⟩, hother⟩ := h.error herror
    exact ⟨front, htokens, ⟨more, value, hwider hphrase⟩, hother⟩

theorem reads_pure (value : α) :
    (pure value : Parser α).Reads fun tokens value' => tokens = [] ∧ value' = value where
  inhabited := ⟨[], value, rfl, rfl⟩
  ok := by
    intro tokens value' rest h
    cases h
    exact ⟨[], rfl, ⟨rfl, rfl⟩, fun _ _ => rfl⟩
  error h := by cases h

theorem Reads.bind (h : parser.Reads first)
    (hnext : ∀ value, (next value).Reads (second value)) :
    (parser >>= next).Reads (InTurn first second) where
  inhabited := by
    obtain ⟨front, middle, hfront⟩ := h.inhabited
    obtain ⟨back, value, hback⟩ := (hnext middle).inhabited
    exact ⟨front ++ back, value, front, back, middle, rfl, hfront, hback⟩
  ok := by
    intro tokens value rest hok
    obtain ⟨middle, between, hfirst, hlast⟩ := bind_eq_ok_iff.mp hok
    obtain ⟨front, rfl, hfront, hparser⟩ := h.ok hfirst
    obtain ⟨back, rfl, hback, hother⟩ := (hnext middle).ok hlast
    refine ⟨front ++ back, by simp, ⟨front, back, middle, rfl, hfront, hback⟩, ?_⟩
    intro other hhead
    rw [List.append_assoc, bind_of_ok (hparser _ (head?_append_congr hhead back))]
    exact hother other hhead
  error := by
    intro tokens failure herror
    cases hfirst : parser tokens with
    | error failure' =>
        rw [bind_of_error hfirst] at herror
        cases herror
        obtain ⟨front, htokens, ⟨more, middle, hphrase⟩, hother⟩ := h.error hfirst
        obtain ⟨after, value, hafter⟩ := (hnext middle).inhabited
        refine ⟨front, htokens, ⟨more ++ after, value, front ++ more, after, middle, ?_⟩, ?_⟩
        · exact ⟨by simp, hphrase, hafter⟩
        · exact fun other hhead => bind_of_error (hother other hhead)
    | ok result =>
        obtain ⟨middle, between⟩ := result
        rw [bind_of_ok hfirst] at herror
        obtain ⟨front, rfl, hfront, hparser⟩ := h.ok hfirst
        obtain ⟨back, rfl, ⟨more, value, hback⟩, hother⟩ := (hnext middle).error herror
        refine ⟨front ++ back, by simp, ⟨more, value, front, back ++ more, middle, ?_⟩, ?_⟩
        · exact ⟨by simp, hfront, hback⟩
        · intro other hhead
          rw [List.append_assoc, bind_of_ok (hparser _ (head?_append_congr hhead back))]
          exact hother other hhead

theorem Reads.map (h : parser.Reads first) (f : α → β) :
    (f <$> parser).Reads fun tokens value => ∃ inner, first tokens inner ∧ value = f inner := by
  rw [← bind_pure_comp]
  refine (h.bind fun value => reads_pure (f value)).mono ?_
  rintro tokens value ⟨front, back, inner, rfl, hfront, rfl, rfl⟩
  exact ⟨inner, by simpa using hfront, rfl⟩

end Sequencing

/-! ### Single tokens -/

section One

variable {condition : Token → Bool} {expected : Expected}

theorem one_cons {token : Token} (h : condition token = true) (rest : List Token) :
    one condition expected (token :: rest) = .ok (token, rest) := by
  rw [one, if_pos h]

theorem one_of_head? {tokens : List Token} (h : tokens.head?.all (!condition ·) = true) :
    one condition expected tokens = .error ⟨tokens, expected⟩ := by
  cases tokens with
  | nil => rfl
  | cons token rest => rw [one, if_neg (by simpa using h)]

theorem reads_one (condition : Token → Bool) (expected : Expected) {sample : Token}
    (h : condition sample = true) :
    (one condition expected).Reads fun tokens token =>
      tokens = [token] ∧ condition token = true where
  inhabited := ⟨[sample], sample, rfl, h⟩
  ok := by
    intro tokens token rest hok
    cases tokens with
    | nil => cases hok
    | cons found after =>
        by_cases hfound : condition found = true
        · rw [one_cons hfound] at hok
          cases hok
          exact ⟨[token], rfl, ⟨rfl, hfound⟩, fun other _ => one_cons hfound other⟩
        · rw [one, if_neg hfound] at hok
          cases hok
  error := by
    intro tokens failure herror
    have hhead : tokens.head?.all (!condition ·) = true := by
      cases tokens with
      | nil => rfl
      | cons found after =>
          by_cases hfound : condition found = true
          · rw [one_cons hfound] at herror
            cases herror
          · simpa using hfound
    rw [one_of_head? hhead] at herror
    cases herror
    refine ⟨[], rfl, ⟨[sample], sample, rfl, h⟩, fun other hother => ?_⟩
    exact one_of_head? (by rw [List.nil_append, hother]; exact hhead)

theorem reads_terminal (wanted : Terminal) :
    (terminal wanted).Reads fun tokens token => tokens = [token] ∧ Stands wanted token :=
  (reads_one _ _ (accepts_iff_stands.mpr (stands_token wanted))).mono
    fun h => ⟨h.1, accepts_iff_stands.mp h.2⟩

theorem reads_ofKind (kind : TokenKind) (expected : Expected) :
    (ofKind kind expected).Reads fun tokens token => tokens = [token] ∧ token.kind = kind :=
  have hsample : ({ value := "", kind } : Token).kind == kind := by simp
  (reads_one _ _ hsample).mono fun h => ⟨h.1, by simpa using h.2⟩

theorem terminal_cons {wanted : Terminal} {token : Token} (h : Stands wanted token)
    (rest : List Token) : terminal wanted (token :: rest) = .ok (token, rest) :=
  one_cons (accepts_iff_stands.mpr h) rest

theorem ofKind_cons {kind : TokenKind} {expected : Expected} {token : Token}
    (h : token.kind = kind) (rest : List Token) :
    ofKind kind expected (token :: rest) = .ok (token, rest) :=
  one_cons (by simpa using h) rest

end One

/-! ### Lists with commas

A list goes on for as long as no stop comes next. Reading it is deterministic because no member
begins with a stop and no stop is a comma.
-/

section Lists

variable {α : Type} {member : Member α} {Phrase : List Token → α → Prop} {stops : List Terminal}
  {unended : Expected}

theorem members_nil : members member stops unended [] = .error ⟨[], unended⟩ := by
  rw [members]

theorem members_stop {token : Token} (h : stops.any (·.accepts token) = true)
    (rest : List Token) :
    members member stops unended (token :: rest) = .ok ([], token :: rest) := by
  rw [members, if_pos h]

theorem members_of_head? {tokens : List Token} {token : Token} (hhead : tokens.head? = some token)
    (hstop : stops.any (·.accepts token) = false)
    (hcomma : (Terminal.symbol .comma).accepts token = false) :
    members member stops unended tokens = .error ⟨tokens, .terminal (.symbol .comma)⟩ := by
  obtain ⟨rest, rfl⟩ := List.head?_eq_some_iff.mp hhead
  rw [members, if_neg (by simp [hstop]), if_neg (by simp [hcomma])]

/-- A member and the tail of its list. -/
def memberAndTail (member : Member α) (stops : List Terminal) (unended : Expected) :
    Parser (List α) :=
  member.parser >>= fun value => (value :: ·) <$> (show Parser (List α) from
    members member stops unended)

theorem memberAndTail_eq (tokens : List Token) :
    memberAndTail member stops unended tokens =
      match member.parser tokens with
      | .error failure => .error failure
      | .ok (value, rest) =>
          match members member stops unended rest with
          | .error failure => .error failure
          | .ok (values, rest) => .ok (value :: values, rest) := by
  rw [memberAndTail]
  cases hmember : member.parser tokens with
  | error failure => rw [bind_of_error hmember]
  | ok result =>
      obtain ⟨value, rest⟩ := result
      rw [bind_of_ok hmember]
      cases hmembers : members member stops unended rest with
      | error failure =>
          rw [map_of_error hmembers]
          simp only [hmembers]
      | ok result =>
          rw [map_of_ok hmembers]
          simp only [hmembers]

theorem members_comma {token : Token} (hstop : stops.any (·.accepts token) = false)
    (hcomma : (Terminal.symbol .comma).accepts token = true) (rest : List Token) :
    members member stops unended (token :: rest) = memberAndTail member stops unended rest := by
  rw [members, if_neg (by simp [hstop]), if_pos hcomma]
  have htail : memberAndTail member stops unended rest = _ := memberAndTail_eq rest
  split
  · rename_i hmember
    rw [hmember] at htail
    exact htail.symm
  · rename_i hmember
    rw [hmember] at htail
    exact htail.symm

theorem reads_members (stops : List Terminal) (unended : Expected)
    (hmember : member.parser.Reads Phrase) :
    Parser.Reads (members member stops unended) (IsTail Phrase) where
  inhabited := ⟨[], [], .nil⟩
  ok := by
    intro tokens values rest hok
    fun_induction members member stops unended tokens generalizing values rest with
    | case1 => cases hok
    | case2 token rest hstop =>
        cases hok
        refine ⟨[], rfl, .nil, fun other hhead => ?_⟩
        obtain ⟨rest', rfl⟩ := List.head?_eq_some_iff.mp hhead
        exact members_stop hstop rest'
    | case3 => cases hok
    | case4 => cases hok
    | case5 token after hstop hcomma value middle hvalue values' rest' hvalues ih =>
        cases hok
        obtain ⟨front, rfl, hfront, hparser⟩ := hmember.ok hvalue
        obtain ⟨back, rfl, hback, hother⟩ := ih hvalues
        refine ⟨token :: (front ++ back), by simp,
          .cons (accepts_iff_stands.mp hcomma) hfront hback, fun other hhead => ?_⟩
        rw [List.cons_append, members_comma (by simpa using hstop) hcomma, List.append_assoc,
          memberAndTail, bind_of_ok (hparser _ (head?_append_congr hhead back)),
          map_of_ok (hother other hhead)]
    | case6 => cases hok
  error := by
    intro tokens failure herror
    fun_induction members member stops unended tokens generalizing failure with
    | case1 =>
        cases herror
        refine ⟨[], rfl, ⟨[], [], .nil⟩, fun other hhead => ?_⟩
        rw [List.head?_eq_none_iff.mp hhead]
        exact members_nil
    | case2 => cases herror
    | case3 token after hstop hcomma failure' hvalue =>
        cases herror
        obtain ⟨front, rfl, ⟨more, value, hphrase⟩, hparser⟩ := hmember.error hvalue
        refine ⟨token :: front, rfl, ⟨more, [value], ?_⟩, fun other hhead => ?_⟩
        · have htail := IsTail.cons (accepts_iff_stands.mp hcomma) hphrase .nil
          simpa using htail
        · rw [List.cons_append, members_comma (by simpa using hstop) hcomma, memberAndTail,
            bind_of_error (hparser other hhead)]
    | case4 token after hstop hcomma value middle hvalue failure' hvalues ih =>
        cases herror
        obtain ⟨front, rfl, hfront, hparser⟩ := hmember.ok hvalue
        obtain ⟨back, rfl, ⟨more, values, hphrase⟩, hother⟩ := ih hvalues
        refine ⟨token :: (front ++ back), by simp, ⟨more, value :: values, ?_⟩,
          fun other hhead => ?_⟩
        · have htail := IsTail.cons (accepts_iff_stands.mp hcomma) hfront hphrase
          simpa using htail
        · rw [List.cons_append, members_comma (by simpa using hstop) hcomma, List.append_assoc,
            memberAndTail, bind_of_ok (hparser _ (head?_append_congr hhead back)),
            map_of_error (hother other hhead)]
    | case5 => cases herror
    | case6 token after hstop hcomma =>
        cases herror
        refine ⟨[], rfl, ⟨[], [], .nil⟩, fun other hhead => ?_⟩
        exact members_of_head? hhead (by simpa using hstop) (by simpa using hcomma)

theorem reads_memberAndTail (stops : List Terminal) (unended : Expected)
    (hmember : member.parser.Reads Phrase) :
    (memberAndTail member stops unended).Reads fun tokens values =>
      ∃ front back value others, tokens = front ++ back ∧ values = value :: others ∧
        Phrase front value ∧ IsTail Phrase back others := by
  have htail := fun value : α => (reads_members stops unended hmember).map (value :: ·)
  refine (hmember.bind htail).mono ?_
  rintro tokens values ⟨front, back, value, rfl, hfront, others, hback, rfl⟩
  exact ⟨front, back, value, others, rfl, rfl, hfront, hback⟩

theorem separated_of_stop {tokens : List Token} {token : Token}
    (hhead : tokens.head? = some token) (hstop : stops.any (·.accepts token) = true) :
    separated member stops unended tokens = .ok ([], tokens) := by
  obtain ⟨rest, rfl⟩ := List.head?_eq_some_iff.mp hhead
  rw [separated, if_pos hstop]

theorem separated_of_head? {tokens : List Token} {token : Token}
    (hhead : tokens.head? = some token) (hstop : stops.any (·.accepts token) = false) :
    separated member stops unended tokens = memberAndTail member stops unended tokens := by
  obtain ⟨rest, rfl⟩ := List.head?_eq_some_iff.mp hhead
  rw [separated, if_neg (by simp [hstop])]
  exact (memberAndTail_eq _).symm

theorem reads_separated (stops : List Terminal) (unended : Expected)
    (hmember : member.parser.Reads Phrase) :
    (separated member stops unended).Reads (IsList Phrase) := by
  have hlist := reads_memberAndTail stops unended hmember
  constructor
  · exact ⟨[], [], .missing⟩
  · intro tokens values rest hok
    cases hhead : tokens.head? with
    | none =>
        rw [List.head?_eq_none_iff.mp hhead] at hok
        cases hok
    | some token =>
        cases hstop : stops.any (·.accepts token) with
        | true =>
            rw [separated_of_stop hhead hstop] at hok
            cases hok
            refine ⟨[], rfl, .missing, fun other hother => ?_⟩
            exact separated_of_stop (hother.trans hhead) hstop
        | false =>
            rw [separated_of_head? hhead hstop] at hok
            obtain ⟨front, rfl, ⟨_, _, _, _, rfl, rfl, hfront, hback⟩, hother⟩ := hlist.ok hok
            refine ⟨_, rfl, .members hfront hback, fun other hsame => ?_⟩
            rw [separated_of_head? ((head?_append_congr hsame _).trans hhead) hstop]
            exact hother other hsame
  · intro tokens failure herror
    cases hhead : tokens.head? with
    | none =>
        rw [List.head?_eq_none_iff.mp hhead] at herror ⊢
        cases herror
        refine ⟨[], rfl, ⟨[], [], .missing⟩, fun other hother => ?_⟩
        rw [List.head?_eq_none_iff.mp hother]
        rfl
    | some token =>
        cases hstop : stops.any (·.accepts token) with
        | true =>
            rw [separated_of_stop hhead hstop] at herror
            cases herror
        | false =>
            rw [separated_of_head? hhead hstop] at herror
            obtain ⟨front, rfl, ⟨more, values, hphrase⟩, hother⟩ := hlist.error herror
            refine ⟨front, rfl, ⟨more, values, ?_⟩, fun other hsame => ?_⟩
            · obtain ⟨_, _, _, _, hmore, rfl, hfront, hback⟩ := hphrase
              rw [hmore]
              exact .members hfront hback
            · rw [separated_of_head? ((head?_append_congr hsame _).trans hhead) hstop]
              exact hother other hsame

/-! Conversely a list is read whole when a stop follows it. -/

variable (hmember : ∀ {front value}, Phrase front value →
    ∀ rest, member.parser (front ++ rest) = .ok (value, rest))
  (hcomma : ∀ {token}, Stands (.symbol .comma) token → stops.any (·.accepts token) = false)

include hmember hcomma

theorem members_append {tokens : List Token} {values : List α}
    (h : IsTail Phrase tokens values) {stop : Token} (hstop : stops.any (·.accepts stop) = true)
    (rest : List Token) :
    members member stops unended (tokens ++ stop :: rest) = .ok (values, stop :: rest) := by
  induction h with
  | nil => exact members_stop hstop rest
  | cons hmark hvalue _ ih =>
      rw [List.cons_append, members_comma (hcomma hmark) (accepts_iff_stands.mpr hmark),
        List.append_assoc, memberAndTail, bind_of_ok (hmember hvalue _), map_of_ok ih]

theorem separated_append
    (hstart : ∀ {front value}, Phrase front value →
      ∃ token back, front = token :: back ∧ stops.any (·.accepts token) = false)
    {tokens : List Token} {values : List α} (h : IsList Phrase tokens values) {stop : Token}
    (hstop : stops.any (·.accepts stop) = true) (rest : List Token) :
    separated member stops unended (tokens ++ stop :: rest) = .ok (values, stop :: rest) := by
  cases h with
  | missing => exact separated_of_stop rfl hstop
  | members hvalue htail =>
      obtain ⟨token, back, rfl, htoken⟩ := hstart hvalue
      rw [List.append_assoc, separated_of_head? rfl htoken, memberAndTail,
        bind_of_ok (hmember hvalue _),
        map_of_ok (members_append hmember hcomma htail hstop rest)]

end Lists

end PocketSql.Parser
