import PocketSql.Unicode.Lowercase
/-!
# The longest word of a list that a text begins with

A text is compared in any case: each of its characters is put in lower case by itself, and a word is
found when the lower-case forms of the first characters, put together, are the word. One character
can have a lower-case form of several, so a word may end in the middle of a form; it is not found
then.

The search reads the text once. It carries, for every word that the characters so far begin, the
part of the word that is still to come. A word whose part no longer fits is dropped, and a word
whose part is used up is found. Words found later are longer, so the last find wins, and of equal
words the first.
-/

namespace PocketSql

/-- Goes on with a search: `read` characters are behind, `found` is the longest word so far with the
number of characters that it covers, and the list holds the words begun with their parts to come. -/
def longestMatchFrom {α : Type} (read : Nat) (found : Option (α × Nat)) :
    List (α × List Char) → List Char → Option (α × Nat)
  | _, [] => found
  | begun, c :: rest =>
      let next := begun.filterMap fun (word, part) =>
        (List.isPrefixOf? (Unicode.lowerChar c) part).map fun part => (word, part)
      let ended := next.find? fun (_, part) => part.isEmpty
      let found := (ended.map fun (word, _) => (word, read + 1)).or found
      let begun := next.filter fun (_, part) => !part.isEmpty
      if begun.isEmpty then found else longestMatchFrom (read + 1) found begun rest

/-- The longest of the words that a text begins with, and the number of characters of the text that
it covers. -/
def longestMatch {α : Type} (spelling : α → String) (words : List α) (source : List Char) :
    Option (α × Nat) :=
  longestMatchFrom 0 none (words.map fun word => (word, (spelling word).toList)) source

theorem longestMatchFrom_pos {α : Type} {read : Nat} {found : Option (α × Nat)}
    {begun : List (α × List Char)} {source : List Char} {word : α} {length : Nat}
    (hfound : ∀ word length, found = some (word, length) → 0 < length)
    (h : longestMatchFrom read found begun source = some (word, length)) : 0 < length := by
  induction source generalizing read found begun with
  | nil => exact hfound _ _ h
  | cons c rest ih =>
      have hnext : ∀ (ended : Option (α × List Char)) word length,
          (ended.map fun (word, _) => (word, read + 1)).or found = some (word, length) →
            0 < length := by
        intro ended word length hended
        cases ended with
        | none => exact hfound _ _ (by simpa using hended)
        | some first =>
            have hlength : read + 1 = length := by simpa using congrArg (·.map Prod.snd) hended
            omega
      rw [longestMatchFrom] at h
      dsimp only at h
      split at h
      · exact hnext _ _ _ h
      · exact ih (hnext _) h

theorem longestMatch_pos {α : Type} {spelling : α → String} {words : List α}
    {source : List Char} {word : α} {length : Nat}
    (h : longestMatch spelling words source = some (word, length)) : 0 < length :=
  longestMatchFrom_pos (by simp) h

end PocketSql
