import PocketSql.Statement.Expected
/-!
# Parsers

A parser takes tokens from the front of a list and gives back the rest, or it fails. A list of
members with commas between them ends at a stop, which is left for the next parser; a list that
meets the end of the tokens instead has failed.

Whether a parser takes a token for certain is a property of its own, `Shrinks`. It is what makes the
reading of a list end, so a parser for the members of a list comes with it.
-/

namespace PocketSql

abbrev Parser := StateT (List Token) (Except ParseFailure)

namespace Parser

/-- A parser that leaves fewer tokens than it was given. -/
def Shrinks {α : Type} (parser : Parser α) : Prop :=
  ∀ tokens value rest, parser tokens = .ok (value, rest) → rest.length < tokens.length

/-- A parser that leaves no more tokens than it was given. -/
def Keeps {α : Type} (parser : Parser α) : Prop :=
  ∀ tokens value rest, parser tokens = .ok (value, rest) → rest.length ≤ tokens.length

theorem Shrinks.keeps {α : Type} {parser : Parser α} (h : parser.Shrinks) : parser.Keeps :=
  fun tokens value rest hok => Nat.le_of_lt (h tokens value rest hok)

theorem bind_eq_ok_iff {α β : Type} {parser : Parser α} {next : α → Parser β}
    {tokens rest : List Token} {value : β} :
    (parser >>= next) tokens = .ok (value, rest) ↔
      ∃ first middle, parser tokens = .ok (first, middle) ∧ next first middle = .ok (value, rest) := by
  change (parser tokens >>= fun pair => next pair.1 pair.2) = _ ↔ _
  cases parser tokens with
  | error failure =>
      constructor
      · intro h
        cases h
      · rintro ⟨_, _, h, _⟩
        cases h
  | ok pair =>
      constructor
      · intro h
        exact ⟨pair.1, pair.2, rfl, h⟩
      · rintro ⟨_, _, h, hnext⟩
        cases h
        exact hnext

theorem keeps_pure {α : Type} (value : α) : (pure value : Parser α).Keeps := by
  intro tokens value' rest h
  cases h
  exact Nat.le_refl _

theorem Shrinks.bind {α β : Type} {parser : Parser α} {next : α → Parser β}
    (h : parser.Shrinks) (hnext : ∀ value, (next value).Keeps) : (parser >>= next).Shrinks := by
  intro tokens value rest hok
  obtain ⟨first, middle, hfirst, hlast⟩ := bind_eq_ok_iff.mp hok
  exact Nat.lt_of_le_of_lt (hnext first _ _ _ hlast) (h _ _ _ hfirst)

theorem Keeps.bind {α β : Type} {parser : Parser α} {next : α → Parser β}
    (h : parser.Keeps) (hnext : ∀ value, (next value).Keeps) : (parser >>= next).Keeps := by
  intro tokens value rest hok
  obtain ⟨first, middle, hfirst, hlast⟩ := bind_eq_ok_iff.mp hok
  exact Nat.le_trans (hnext first _ _ _ hlast) (h _ _ _ hfirst)

theorem shrinks_map {α β : Type} {parser : Parser α} (f : α → β) (h : parser.Shrinks) :
    (f <$> parser).Shrinks := by
  rw [← bind_pure_comp]
  exact h.bind fun _ => keeps_pure _

/-- One token that satisfies a condition. -/
def one (condition : Token → Bool) (expected : Expected) : Parser Token := fun tokens =>
  match tokens with
  | [] => .error ⟨[], expected⟩
  | token :: rest =>
      if condition token then .ok (token, rest) else .error ⟨token :: rest, expected⟩

theorem shrinks_one (condition : Token → Bool) (expected : Expected) :
    (one condition expected).Shrinks := by
  intro tokens value rest h
  unfold one at h
  split at h
  · cases h
  · split at h
    · cases h
      exact Nat.lt_succ_self _
    · cases h

def terminal (terminal : Terminal) : Parser Token :=
  one terminal.accepts (.terminal terminal)

def ofKind (kind : TokenKind) (expected : Expected) : Parser Token :=
  one (·.kind == kind) expected

/-- A parser for the members of a list. A member has at least one token. -/
structure Member (α : Type) where
  parser : Parser α
  shrinks : parser.Shrinks

/-- The rest of a list after a member: nothing when a stop comes next, and otherwise a comma, a
member and the rest. A stop is not taken. -/
def members {α : Type} (member : Member α) (stops : List Terminal) (unended : Expected)
    (tokens : List Token) : Except ParseFailure (List α × List Token) :=
  match tokens with
  | [] => .error ⟨[], unended⟩
  | token :: rest =>
      if stops.any (·.accepts token) then .ok ([], token :: rest)
      else if (Terminal.symbol .comma).accepts token then
        match _h : member.parser rest with
        | .error failure => .error failure
        | .ok (value, rest) =>
            match members member stops unended rest with
            | .error failure => .error failure
            | .ok (values, rest) => .ok (value :: values, rest)
      else .error ⟨token :: rest, .terminal (.symbol .comma)⟩
  termination_by tokens.length
  decreasing_by
    have hlt := member.shrinks _ _ _ _h
    simp only [List.length_cons]
    omega

/-- A list of members with commas between them, up to a stop that is not taken. -/
def separated {α : Type} (member : Member α) (stops : List Terminal) (unended : Expected) :
    Parser (List α) := fun tokens =>
  match tokens with
  | [] => .error ⟨[], unended⟩
  | token :: rest =>
      if stops.any (·.accepts token) then .ok ([], token :: rest)
      else
        match member.parser (token :: rest) with
        | .error failure => .error failure
        | .ok (value, rest) =>
            match members member stops unended rest with
            | .error failure => .error failure
            | .ok (values, rest) => .ok (value :: values, rest)

theorem length_le_of_members {α : Type} {member : Member α} {stops : List Terminal}
    {unended : Expected} {tokens rest : List Token} {values : List α}
    (h : members member stops unended tokens = .ok (values, rest)) :
    rest.length ≤ tokens.length := by
  fun_induction members member stops unended tokens generalizing values rest with
  | case1 => cases h
  | case2 => cases h; exact Nat.le_refl _
  | case3 => cases h
  | case4 => cases h
  | case5 token after _ _ value middle hvalue values' rest' hmembers ih =>
      cases h
      have hlast := ih hmembers
      have hfirst := member.shrinks _ _ _ hvalue
      simp only [List.length_cons]
      omega
  | case6 => cases h

theorem keeps_separated {α : Type} (member : Member α) (stops : List Terminal)
    (unended : Expected) : (separated member stops unended).Keeps := by
  intro tokens values rest h
  unfold separated at h
  split at h
  · cases h
  · split at h
    · cases h
      exact Nat.le_refl _
    · split at h
      · cases h
      · rename_i hvalue
        split at h
        · cases h
        · rename_i hmembers
          cases h
          exact Nat.le_trans (length_le_of_members hmembers) (Nat.le_of_lt (member.shrinks _ _ _ hvalue))

end Parser
end PocketSql
