import RoleAccess.Proofs.Files.Tree
import RoleAccess.Proofs.Policy.Reported
import RoleAccess.Proofs.Text.Lines

/-!
# Policies in files

The text of a file has its line ends unified before it is read as a policy. Its lines stay what
they were, so the policy of a file with a text is the policy of that text, and so is the error if
the text has none: in the same line, with the same number and the same token
(`load_policy_of_text`).
-/

namespace RoleAccess

namespace Files

variable {tree : Tree} {path text : String} {subject : Subject}

/-- The bytes of a text are read as the text, with its line ends unified. -/
theorem Entry.text_toUTF8 (text : String) :
    (Entry.file text.toUTF8).text = .ok (Text.unifyLineEndsOf text) := by
  have hbytes : String.fromUTF8? text.toUTF8 = some text := by
    rw [String.toUTF8_eq_toByteArray]
    exact dif_pos text.isValidUTF8
  simp only [Entry.text, hbytes]

theorem Tree.load_eq_ok_of_text (h : tree.find? (tidy path) = some (.file text.toUTF8)) :
    tree.load subject path = .ok (Text.unifyLineEndsOf text) := by
  rcases tree.entryFor_cases subject path with ⟨hlong, -⟩ | ⟨⟨hnone, -⟩, -⟩ | ⟨entry, hfind, hentry⟩
  · simp [find?, hlong] at h
  · rw [hnone] at h
    cases h
  · rw [hfind, Option.some_inj] at h
    subst h
    rw [load, hentry]
    show (Entry.file text.toUTF8).text.mapError LoadError.noText = _
    rw [Entry.text_toUTF8]
    rfl

end Files

namespace Policy

variable {files : Files.Tree} {path text : String}

/-- Unifying the line ends of a text changes neither its policy nor its error. -/
theorem parse_unifyLineEndsOf (text : String) : parse (Text.unifyLineEndsOf text) = parse text := by
  have hrules : parseRules (Text.unifyLineEndsOf text) = parseRules text := by
    rw [parseRules, parseRules, Text.linesOf_unifyLineEndsOf]
  rw [parse, parse, hrules]

theorem load_eq_parse (h : files.find? (Files.tidy path) = some (.file text.toUTF8)) :
    load files path = (parse text).mapError LoadError.policy := by
  calc load files path
    _ = (.ok (Text.unifyLineEndsOf text) >>= fun read => (parse read).mapError .policy) := by
        rw [load, Files.Tree.load_eq_ok_of_text h]
    _ = (parse (Text.unifyLineEndsOf text)).mapError .policy := pure_bind _ _
    _ = (parse text).mapError .policy := by rw [parse_unifyLineEndsOf]

/-- A file with a text is loaded as the text is read: with the same checker, or with the same
error and no other. Nothing else comes of it if the loading is reported, as long as the reports
leave the file as it is. -/
theorem load_policy_of_text (h : files.find? (Files.tidy path) = some (.file text.toUTF8)) :
    ((∃ checker, load files path = .ok checker ∧ parse text = .ok checker) ∨
      ∃ error, load files path = .error (.policy error) ∧ parse text = .error error) ∧
    ∀ filesAfter : List Log.Record → Files.Tree,
      (∀ records, (filesAfter records).find? (Files.tidy path) = some (.file text.toUTF8)) →
        (loadReported filesAfter path).outcome = load files path ∧
          (parseReported text).outcome = parse text := by
  have hload := load_eq_parse h
  constructor
  · cases hparse : parse text with
    | ok checker =>
        rw [hparse] at hload
        exact .inl ⟨checker, hload, rfl⟩
    | error error =>
        rw [hparse] at hload
        exact .inr ⟨error, hload, rfl⟩
  · intro filesAfter hkept
    constructor
    · rw [outcome_loadReported, hload]
      exact load_eq_parse (hkept _)
    · exact outcome_parseReported text

/-- All line ends are counted once, also those that are unified. -/
theorem load_policy_of_mixed_line_ends :
    ∃ files : Files.Tree,
      files.find? (Files.tidy "p") =
          some (.file "boss > ann\r\n\r# staff\u2028grant ann /x\n".toUTF8) ∧
        load files "p" = .error (.policy (.parse
          ⟨.unknownKeyword "grant", some 4, some "grant ann /x", some "grant"⟩)) := by
  obtain ⟨files, hfind⟩ : ∃ files : Files.Tree, files.find? (Files.tidy "p") =
      some (.file "boss > ann\r\n\r# staff\u2028grant ann /x\n".toUTF8) :=
    ⟨({} : Files.Tree).put ⟨.working 0, ["p"]⟩ (.file _), rfl⟩
  have hparse : parse "boss > ann\r\n\r# staff\u2028grant ann /x\n" = .error (.parse
      ⟨.unknownKeyword "grant", some 4, some "grant ann /x", some "grant"⟩) := rfl
  refine ⟨files, hfind, ?_⟩
  rcases (load_policy_of_text hfind).1 with ⟨checker, -, hchecker⟩ | ⟨error, hload, herror⟩
  · rw [hparse] at hchecker
    cases hchecker
  · rw [hparse] at herror
    cases herror
    exact hload

end Policy

end RoleAccess
