import SnippetReview.Proofs.Checker.Colon
import SnippetReview.Proofs.Checker.Header
import SnippetReview.Proofs.Checker.Order

/-!
The keywords in messages. Four rules name a keyword, and each of them looks for it a second time,
once it has fired. It always finds one: where the pattern of a rule matches, there is a keyword.
-/

set_option autoImplicit false

namespace SnippetReview

def Diagnostic.Names (d : Diagnostic) (keyword : Text) : Prop :=
  d.message = Condition.message keyword ∨ d.message = Python.colonMessage keyword

namespace Python

def keywordRules : List LineRule :=
  [blockColonRule, loneColonRule, Condition.openRule]

end Python

open Condition Python

/-- The message with which a rule about keywords reports a line, and where the keyword is from. -/
inductive NamesKeyword (line : Text) : LineRule → Text → Prop
  | opened {front keyword rest : Text}
      (leftmost : IsLeftmost openKeywords line.trim front keyword rest)
      (matched : openPattern.MatchesFirstAt line.trim front) :
      NamesKeyword line openRule (message keyword)
  | bracketed {front keyword rest : Text}
      (leftmost : IsLeftmost bracketedKeywords line front keyword rest) :
      NamesKeyword line bracketedRule (message keyword)
  | block (mem : headWord line ∈ blockKeywords) (apart : headWord line ∉ loneKeywords) :
      NamesKeyword line blockColonRule (colonMessage (headWord line))
  | lone {lone : Text} (mem : lone ∈ loneKeywords) (start : lone <+: firstField line.trim) :
      NamesKeyword line loneColonRule (colonMessage (firstField line.trim))

section Fires

variable {line : Text} (number : Int)

private theorem Condition.namesKeyword_openRule (hline : CodePoint.ofChar '\n' ∉ line.trim)
    (hfires : openRule.fires line line.trim = true) :
    NamesKeyword line openRule (openRule.report line line.trim number).message := by
  obtain ⟨earlier, hmatch⟩ := Pattern.occursIn_iff_exists_matchesAt.mp hfires
  obtain ⟨word, later, middle, right, hstands, -⟩ := matchesAt_openPattern_iff.mp hmatch
  obtain ⟨front, keyword, rest, -, hleftmost⟩ :=
    hstands.exists_isLeftmost isWord_of_mem_openKeywords
  have hmessage : (openRule.report line line.trim number).message = message keyword :=
    congrArg message (hleftmost.keyword_eq isWord_of_mem_openKeywords)
  rw [hmessage]
  exact .opened hleftmost (hleftmost.matchesFirstAt_openPattern hline hfires)

private theorem Condition.namesKeyword_bracketedRule
    (hfires : bracketedRule.fires line line.trim = true) :
    NamesKeyword line bracketedRule (bracketedRule.report line line.trim number).message := by
  obtain ⟨earlier, word, later, hopens, -⟩ := (fires_bracketedRule_iff line.trim).mp hfires
  obtain ⟨more, hstands⟩ := hopens.exists_standsAt
  obtain ⟨front, keyword, rest, -, hleftmost⟩ :=
    hstands.exists_isLeftmost isWord_of_mem_bracketedKeywords
  rw [message_report_bracketedRule hleftmost]
  exact .bracketed hleftmost

private theorem Python.namesKeyword_blockColonRule
    (hfires : blockColonRule.fires line line.trim = true) :
    NamesKeyword line blockColonRule (blockColonRule.report line line.trim number).message := by
  obtain ⟨hmem, hapart, -⟩ := (fires_blockColonRule_iff line).mp hfires
  have hmessage : (blockColonRule.report line line.trim number).message =
      colonMessage (headWord line) :=
    congrArg colonMessage (leadingWord_trim line)
  rw [hmessage]
  exact .block hmem hapart

private theorem Python.namesKeyword_loneColonRule
    (hfires : loneColonRule.fires line line.trim = true) :
    NamesKeyword line loneColonRule (loneColonRule.report line line.trim number).message := by
  obtain ⟨⟨lone, hmem, hstart⟩, -⟩ := (fires_loneColonRule_iff line).mp hfires
  obtain ⟨rest, htext⟩ := hstart.trans (List.takeWhile_prefix CodePoint.isWord)
  have hvisible : ∀ word ∈ loneKeywords, Text.IsVisible word := by
    decide
  refine NamesKeyword.lone hmem ?_
  rw [firstField, ← htext, List.takeWhile_append_of_pos fun c hc => by
    rw [(hvisible lone hmem).2 c hc, Bool.not_false]]
  exact List.prefix_append lone _

end Fires

section Names

variable {d : Diagnostic} {keyword : Text}

private theorem Diagnostic.Names.head (h : d.Names keyword) :
    d.message.head? = some (CodePoint.ofChar 'P') ∨
      d.message.head? = some (CodePoint.ofChar '\'') := by
  rcases h with h | h
  · exact Or.inl (by rw [h]; rfl)
  · exact Or.inr (by rw [h]; rfl)

private theorem colonMessage_injective : Function.Injective colonMessage :=
  (List.append_left_injective _).comp (List.append_right_injective _)

private theorem message_ne_colonMessage (keyword other : Text) :
    message keyword ≠ colonMessage other := by
  intro h
  have hhead := congrArg List.head? h
  change some (CodePoint.ofChar 'P') = some (CodePoint.ofChar '\'') at hhead
  exact absurd hhead (by decide)

private theorem NamesKeyword.found {line : Text} {rule : LineRule}
    (h : NamesKeyword line rule d.message) (hnames : d.Names keyword) :
    keyword ≠ [] ∧ keyword ≠ Text.ofString "conditional" := by
  have hopen : ∀ word ∈ openKeywords, word ≠ [] ∧ word ≠ Text.ofString "conditional" := by
    decide
  have hbracketed : ∀ word ∈ bracketedKeywords, word ≠ [] ∧ word ≠ Text.ofString "conditional" := by
    decide
  have hblock : ∀ word ∈ blockKeywords, word ≠ [] ∧ word ≠ Text.ofString "conditional" := by
    decide
  have hlone : ∀ lone ∈ loneKeywords, lone ≠ [] ∧ ¬ lone <+: Text.ofString "conditional" := by
    decide
  generalize hmessage : d.message = message' at h
  rw [Diagnostic.Names, hmessage] at hnames
  cases h with
  | opened leftmost =>
    have hsame := hnames.resolve_right (message_ne_colonMessage _ _)
    exact message_injective hsame ▸ hopen _ leftmost.mem
  | bracketed leftmost =>
    have hsame := hnames.resolve_right (message_ne_colonMessage _ _)
    exact message_injective hsame ▸ hbracketed _ leftmost.mem
  | block mem =>
    have hsame := hnames.resolve_left (message_ne_colonMessage _ _).symm
    exact colonMessage_injective hsame ▸ hblock _ mem
  | lone mem start =>
    have hsame := hnames.resolve_left (message_ne_colonMessage _ _).symm
    rw [← colonMessage_injective hsame]
    refine ⟨fun hnil => ?_, fun hfallback => ?_⟩
    · rw [hnil, List.prefix_nil] at start
      exact (hlone _ mem).1 start
    · rw [hfallback] at start
      exact (hlone _ mem).2 start

private theorem isColonReport_of_message (h : d.message = colonMessage keyword) :
    isColonReport d = true := by
  rw [isColonReport, h]
  exact isColonReport_colonMessage 0 keyword []

private theorem mem_keywordRules_of_names {rule : LineRule} (hrule : rule ∈ rules)
    {line trimmed : Text}
    {number : Int} (hnames : (rule.report line trimmed number).Names keyword) :
    rule ∈ keywordRules := by
  have hhead : ∀ rule ∈ rules, rule ∈ keywordRules ∨ ∀ line trimmed number,
      (rule.report line trimmed number).message.head? ≠ some (CodePoint.ofChar 'P') := by
    have hquote : some (CodePoint.ofChar '\'') ≠ some (CodePoint.ofChar 'P') := by
      decide
    have hmismatch : some (CodePoint.ofChar 'M') ≠ some (CodePoint.ofChar 'P') := by
      decide
    simp only [rules, List.forall_mem_cons]
    exact ⟨Or.inr fun _ _ _ => hquote, Or.inl (by simp [keywordRules]),
      Or.inl (by simp [keywordRules]), Or.inl (by simp [keywordRules]),
      Or.inr fun _ _ _ => hquote, Or.inr fun _ _ _ => hquote, Or.inr fun _ _ _ => hmismatch,
      Or.inr fun _ _ _ => hmismatch, Or.inr fun _ _ _ => hmismatch, by simp⟩
  obtain ⟨before, behind, hrules, hbefore, hbehind⟩ := ignoresColon_of_mem_rules
  have hcolon : IgnoresColon rule ∨ rule ∈ [blockColonRule, loneColonRule] := by
    rw [hrules, List.mem_append, List.mem_append] at hrule
    exact hrule.elim (Or.elim · (fun h => Or.inl (hbefore rule h)) Or.inr)
      fun h => Or.inl (hbehind rule h)
  rcases hcolon with hsilent | hmem
  · refine (hhead rule hrule).resolve_right fun hother => hother line trimmed number ?_
    rcases hnames with hmessage | hmessage
    · rw [hmessage]
      rfl
    · have hasks := isColonReport_of_message hmessage
      rw [hsilent.silent] at hasks
      cases hasks
  · exact List.mem_append_left [openRule] hmem

private theorem not_names_of_head {c : CodePoint} (h : d.message.head? = some c)
    (hc : c ≠ CodePoint.ofChar 'P' ∧ c ≠ CodePoint.ofChar '\'') : ¬ d.Names keyword := by
  intro hnames
  rcases hnames.head with hhead | hhead
  · exact hc.1 (Option.some.inj (h.symm.trans hhead))
  · exact hc.2 (Option.some.inj (h.symm.trans hhead))

private theorem not_names_of_mem_balanceRules {source : Text} : ∀ rule ∈ balanceRules,
    ¬ (rule.report source).Names keyword := by
  intro rule hrule
  obtain ⟨bracket, -, rfl⟩ := List.mem_map.mp hrule
  exact not_names_of_head (c := 'M') rfl (by decide)

private theorem C.not_names_of_mem_sourceRules {source : Text} : ∀ rule ∈ C.sourceRules,
    ¬ (rule.report source).Names keyword := by
  rw [C.sourceRules, List.forall_mem_append]
  refine ⟨not_names_of_mem_balanceRules, ?_⟩
  simp only [List.forall_mem_cons]
  exact ⟨not_names_of_head (c := 'M') rfl (by decide), not_names_of_head (c := 'm') rfl (by decide),
    by simp⟩

private theorem Java.not_names_of_mem_sourceRules {source : Text} : ∀ rule ∈ Java.sourceRules,
    ¬ (rule.report source).Names keyword := by
  rw [Java.sourceRules, List.forall_mem_append]
  refine ⟨not_names_of_mem_balanceRules, ?_⟩
  simp only [List.forall_mem_cons]
  exact ⟨not_names_of_head (c := 'M') rfl (by decide), not_names_of_head (c := 'M') rfl (by decide),
    by simp⟩

end Names

section Checker

variable {source : Text} {d : Diagnostic}

private theorem LineRule.Firing.Occurs.not_mem_newline {rules : List LineRule} {skips : Text → Bool}
    {firing : LineRule.Firing} (hfiring : firing.Occurs rules skips source) :
    CodePoint.ofChar '\n' ∉ firing.line.trim := by
  have hnone := Text.not_mem_of_mem_lines (List.mem_of_getElem? hfiring.line)
  exact fun hmem => hnone (Text.mem_of_mem_trim hmem)

private theorem Python.namesKeyword_of_occurs {firing : LineRule.Firing}
    (hfiring : firing.Occurs Python.rules Python.skips source)
    (hrule : firing.rule ∈ keywordRules) :
    NamesKeyword firing.line firing.rule firing.report.message := by
  have hline := hfiring.not_mem_newline
  have hfires := hfiring.fires
  obtain ⟨number, line, index, rule⟩ := firing
  simp only [keywordRules, List.mem_cons, List.not_mem_nil, or_false] at hrule
  rcases hrule with rfl | rfl | rfl
  · exact namesKeyword_blockColonRule number hfires
  · exact namesKeyword_loneColonRule number hfires
  · exact namesKeyword_openRule number hline hfires

private theorem Condition.namesKeyword_of_occurs {firing : LineRule.Firing}
    (hfiring : firing.Occurs [bracketedRule] LineRule.skipNone source) :
    NamesKeyword firing.line firing.rule firing.report.message := by
  have hfires := hfiring.fires
  have hrule := List.mem_singleton.mp (List.mem_of_getElem? hfiring.rule)
  obtain ⟨number, line, index, rule⟩ := firing
  subst hrule
  exact namesKeyword_bracketedRule number hfires

private theorem NamesKeyword.names {line : Text} {rule : LineRule}
    (h : NamesKeyword line rule d.message) :
    ∃ keyword, d.Names keyword := by
  generalize hmessage : d.message = message' at h
  simp only [Diagnostic.Names, hmessage]
  cases h with
  | opened => exact ⟨_, Or.inl rfl⟩
  | bracketed => exact ⟨_, Or.inl rfl⟩
  | block => exact ⟨_, Or.inr rfl⟩
  | lone => exact ⟨_, Or.inr rfl⟩

/-- The Python diagnostics about keywords are what the rules about keywords report. -/
private theorem Python.names_iff : (d ∈ Python.check source ∧ ∃ keyword, d.Names keyword) ↔
    ∃ firing : LineRule.Firing, firing.Occurs Python.rules Python.skips source ∧
      firing.rule ∈ keywordRules ∧ firing.report = d := by
  rw [Python.check, LineRule.mem_check_iff]
  constructor
  · rintro ⟨⟨firing, hfiring, rfl⟩, keyword, hnames⟩
    exact ⟨firing, hfiring,
      mem_keywordRules_of_names (List.mem_of_getElem? hfiring.rule) hnames, rfl⟩
  · rintro ⟨firing, hfiring, hrule, rfl⟩
    exact ⟨⟨firing, hfiring, rfl⟩, (Python.namesKeyword_of_occurs hfiring hrule).names⟩

private theorem Semicolon.names_iff {rules : List SourceRule} {style : Semicolon.Style}
    {skips : Text → Bool}
    (hrules : ∀ keyword, ∀ rule ∈ rules, ¬ (rule.report source).Names keyword) :
    (d ∈ Semicolon.checkWith rules style skips source ∧ ∃ keyword, d.Names keyword) ↔
      ∃ firing : LineRule.Firing, firing.Occurs [bracketedRule] LineRule.skipNone source ∧
        firing.report = d := by
  rw [← LineRule.mem_check_iff, Semicolon.checkWith, List.mem_append, List.mem_append]
  constructor
  · rintro ⟨(hmem | hmem) | hmem, keyword, hnames⟩
    · obtain ⟨rule, hrule, rfl⟩ := SourceRule.exists_of_mem_check hmem
      exact absurd hnames (hrules keyword rule hrule)
    · exact hmem
    · obtain ⟨firing, hfiring, rfl⟩ := (LineRule.mem_check_iff ..).mp hmem
      have hrule : firing.rule = style.rule :=
        List.mem_singleton.mp (List.mem_of_getElem? hfiring.rule)
      have hhead : firing.report.message.head? = some (CodePoint.ofChar 'M') := by
        rw [LineRule.Firing.report, hrule]
        rfl
      exact absurd hnames (not_names_of_head hhead (by decide))
  · intro hmem
    obtain ⟨firing, hfiring, rfl⟩ := (LineRule.mem_check_iff ..).mp hmem
    exact ⟨Or.inl (Or.inr hmem), (Condition.namesKeyword_of_occurs hfiring).names⟩

end Checker

/-- The diagnostics about keywords are the reports of the rules for them. About a condition they
name the leftmost keyword of the line, and in Python the match itself begins with that one; about a
colon they name the first word of the line, or what comes before the first blank if that starts like
a keyword that stands alone. No diagnostic falls back on a general word or on none. -/
theorem keywords_are_named (source : Text) :
    (∀ d, (d ∈ Python.check source ∧ ∃ keyword, d.Names keyword) ↔
      ∃ firing : LineRule.Firing, firing.Occurs Python.rules Python.skips source ∧
        firing.rule ∈ keywordRules ∧ firing.report = d) ∧
    (∀ d, (d ∈ C.check source ∧ ∃ keyword, d.Names keyword) ↔
      ∃ firing : LineRule.Firing, firing.Occurs [bracketedRule] LineRule.skipNone source ∧
        firing.report = d) ∧
    (∀ d, (d ∈ Java.check source ∧ ∃ keyword, d.Names keyword) ↔
      ∃ firing : LineRule.Firing, firing.Occurs [bracketedRule] LineRule.skipNone source ∧
        firing.report = d) ∧
    (∀ firing : LineRule.Firing,
      firing.Occurs Python.rules Python.skips source ∧ firing.rule ∈ keywordRules ∨
        firing.Occurs [bracketedRule] LineRule.skipNone source →
          NamesKeyword firing.line firing.rule firing.report.message) ∧
    ∀ d ∈ Python.check source ++ C.check source ++ Java.check source, ∀ keyword, d.Names keyword →
      keyword ≠ [] ∧ keyword ≠ Text.ofString "conditional" := by
  have hC : ∀ d, (d ∈ C.check source ∧ ∃ keyword, d.Names keyword) ↔
      ∃ firing : LineRule.Firing, firing.Occurs [bracketedRule] LineRule.skipNone source ∧
        firing.report = d :=
    fun d => Semicolon.names_iff fun _ => C.not_names_of_mem_sourceRules
  have hJava : ∀ d, (d ∈ Java.check source ∧ ∃ keyword, d.Names keyword) ↔
      ∃ firing : LineRule.Firing, firing.Occurs [bracketedRule] LineRule.skipNone source ∧
        firing.report = d :=
    fun d => Semicolon.names_iff fun _ => Java.not_names_of_mem_sourceRules
  have hnamed : ∀ firing : LineRule.Firing,
      firing.Occurs Python.rules Python.skips source ∧ firing.rule ∈ keywordRules ∨
        firing.Occurs [bracketedRule] LineRule.skipNone source →
          NamesKeyword firing.line firing.rule firing.report.message := by
    rintro firing (⟨hfiring, hrule⟩ | hfiring)
    · exact Python.namesKeyword_of_occurs hfiring hrule
    · exact Condition.namesKeyword_of_occurs hfiring
  refine ⟨fun d => Python.names_iff, hC, hJava, hnamed, ?_⟩
  intro d hd keyword hnames
  rw [List.mem_append, List.mem_append] at hd
  rcases hd with (hd | hd) | hd
  · obtain ⟨firing, hfiring, hrule, rfl⟩ := Python.names_iff.mp ⟨hd, keyword, hnames⟩
    exact (hnamed firing (Or.inl ⟨hfiring, hrule⟩)).found hnames
  · obtain ⟨firing, hfiring, rfl⟩ := (hC d).mp ⟨hd, keyword, hnames⟩
    exact (hnamed firing (Or.inr hfiring)).found hnames
  · obtain ⟨firing, hfiring, rfl⟩ := (hJava d).mp ⟨hd, keyword, hnames⟩
    exact (hnamed firing (Or.inr hfiring)).found hnames

/-- A name that starts like a lone keyword, a condition with two keywords, and the head of a block:
three lines that each get a keyword, the second one in C as well. -/
theorem keywords_are_named_of_three_lines :
    let source : Text := Text.ofString "elsewhere\nif a while (b = 1):\nfor x"
    (Python.check source).map (·.message) = [colonMessage (Text.ofString "elsewhere"),
      message (Text.ofString "if"), colonMessage (Text.ofString "for")] ∧
    (∀ d ∈ Python.check source, ∃ firing : LineRule.Firing,
      firing.Occurs Python.rules Python.skips source ∧ firing.report = d ∧
        NamesKeyword firing.line firing.rule d.message) ∧
    ∃ d ∈ C.check source, d.message = message (Text.ofString "if") ∧
      ∃ firing : LineRule.Firing, firing.Occurs [bracketedRule] LineRule.skipNone source ∧
        firing.report = d ∧ NamesKeyword firing.line firing.rule d.message := by
  intro source
  have hmessages : (Python.check source).map (·.message) =
      [colonMessage (Text.ofString "elsewhere"), message (Text.ofString "if"),
        colonMessage (Text.ofString "for")] := by
    decide +kernel
  have hcondition : ∃ d ∈ C.check source, d.message = message (Text.ofString "if") := by
    decide +kernel
  obtain ⟨hPython, hC, -, hnamed, -⟩ := keywords_are_named source
  refine ⟨hmessages, fun d hd => ?_, ?_⟩
  · have hnames : ∃ keyword, d.Names keyword := by
      have hmem := List.mem_map_of_mem (f := fun d : Diagnostic => d.message) hd
      rw [hmessages] at hmem
      simp only [List.mem_cons, List.not_mem_nil, or_false] at hmem
      rcases hmem with h | h | h
      · exact ⟨_, Or.inr h⟩
      · exact ⟨_, Or.inl h⟩
      · exact ⟨_, Or.inr h⟩
    obtain ⟨firing, hfiring, hrule, rfl⟩ := (hPython d).mp ⟨hd, hnames⟩
    exact ⟨firing, hfiring, rfl, hnamed firing (Or.inl ⟨hfiring, hrule⟩)⟩
  · obtain ⟨d, hd, hmessage⟩ := hcondition
    obtain ⟨firing, hfiring, rfl⟩ := (hC d).mp ⟨hd, _, Or.inl hmessage⟩
    exact ⟨_, hd, hmessage, firing, hfiring, rfl, hnamed firing (Or.inr hfiring)⟩

end SnippetReview
