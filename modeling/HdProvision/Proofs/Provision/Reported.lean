import HdProvision.Proofs.Console.Document
import HdProvision.Proofs.Console.Style
import HdProvision.Proofs.Mnemonic.Reading
import HdProvision.Proofs.Provision.Report
import HdProvision.Proofs.Provision.Stages
import HdProvision.Proofs.Wallet.Address

/-!
# What a report says

A report says the phrase of wallets that are new, the paths and the addresses. As JSON it is one line
whose document reads as these texts; as text it is a line for each wallet, and the phrase stands in
front. None of the texts holds a control sequence, so a console without colors takes nothing out of
them.
-/

set_option autoImplicit false

namespace HdProvision.Wallet

open Console (escapeChar)

variable {seed : Bytes} {path : String} {w : Identity}

theorem Address.escape_not_mem_text (a : Address) : escapeChar ∉ a.text.toList :=
  fun hmem => absurd (mem_text escapeChar hmem) (by decide)

/-- A path with a wallet holds no control sequence, and no more does the address. -/
theorem Identity.escape_not_mem_derived (h : Identity.derive seed path = .ok w) :
    escapeChar ∉ path.toList ∧ escapeChar ∉ w.address.toList := by
  obtain ⟨children, k, hpath, -, rfl⟩ := derive_eq_ok h
  obtain ⟨hspells, -⟩ := DerivationPath.ofChars_eq_ok_iff.mp hpath
  exact ⟨fun hmem => absurd (hspells.mem escapeChar hmem) (by decide),
    Address.escape_not_mem_text _⟩

theorem EarningWallet.escape_not_mem {e : EarningWallet} (h : e.identity seed = .ok w) :
    (∀ path ∈ w.derivationPath, escapeChar ∉ path.toList) ∧ escapeChar ∉ w.address.toList := by
  cases e with
  | external e =>
    cases h
    exact ⟨nofun, Address.escape_not_mem_text _⟩
  | derived path =>
    have hderived : Identity.derive seed path = .ok w := h
    obtain ⟨hpath, haddress⟩ := Identity.escape_not_mem_derived hderived
    rw [Identity.derive_path hderived]
    exact ⟨fun path' hpath' => Option.some.inj hpath' ▸ hpath, haddress⟩

end HdProvision.Wallet

namespace HdProvision.Mnemonic

open Console (escapeChar)

/-- The words of a list hold no control sequence, and no more does what stands between them. -/
theorem escape_not_mem_display (l : Language) (entropy : Bytes) :
    escapeChar ∉ (display l (ofEntropy l entropy)).toList := by
  intro hmem
  rw [display, Text.toList_join] at hmem
  rcases Text.mem_joinChars _ hmem with hsep | ⟨word, hword, hmem⟩
  · obtain ⟨sep, hparts, hseparator⟩ := l.parts_separator
    rw [hseparator, String.toList_ofList, List.mem_singleton] at hsep
    exact absurd (hsep ▸ hparts.blank) (by decide)
  · obtain ⟨w, hw, rfl⟩ := List.mem_map.mp hword
    obtain ⟨i, hi, rfl⟩ := mem_ofEntropy hw
    have hplain := l.isPlain_word hi
    rw [Lists.isPlain, Bool.and_eq_true] at hplain
    exact absurd (Lists.letter_or_mark hplain.2 escapeChar hmem) (by decide)

end HdProvision.Mnemonic

namespace HdProvision.Provision.Report

open Console (Emitter escapeChar)
open Json (Units)
open Json.Writer (escape_mem_text escape_not_mem_line)

theorem escape_ne_mark : escapeChar ≠ '\x7b' ∧ escapeChar ≠ '\x7d' ∧ escapeChar ≠ ':' ∧
    escapeChar ≠ ' ' ∧ escapeChar ≠ ',' := by decide

theorem escape_mem_walletEntry (depth : Nat) (w : Wallet.Identity) (rest : List Char) :
    escapeChar ∈ Json.Writer.value depth (Outcome.walletEntry w) rest ↔ escapeChar ∈ rest := by
  rw [Outcome.walletEntry]
  cases w.derivationPath <;>
    simp [Outcome.entry, Json.Writer.value, Json.Writer.members, escape_mem_text,
      escape_not_mem_line, escape_ne_mark]

/-- A report holds no control sequences, whatever its texts are. -/
theorem escape_not_mem_report (o : Outcome) : escapeChar ∉ Json.write o.report := by
  rw [Json.write, Outcome.report]
  cases o.phrase <;>
    simp [Outcome.entry, Json.Writer.value, Json.Writer.members, escape_mem_text,
      escape_mem_walletEntry, escape_not_mem_line, escape_ne_mark]

/-- What is printed of a report in JSON: on a console with colors it is followed by a reset. -/
theorem painted_json (colors : Bool) (o : Outcome) : painted colors o true =
    String.ofList (Json.write o.report ++ (if colors then Console.sequence 0 else []) ++ ['\n']) := by
  have hstart : (if colors then Console.Style.start ⟨none, none⟩ else []) = [] := by
    cases colors <;> rfl
  rw [painted, if_pos rfl, Emitter.secretShown, String.toList_ofList,
    Console.shown_styled (escape_not_mem_report o), hstart, List.nil_append]

/-- A line of a report. A console with colors is told how it starts, and is reset behind it. -/
def shownLine (colors : Bool) (start text : String) : String :=
  (if colors then start else "") ++ text ++ (if colors then "\x1b[0m" else "") ++ "\n"

/-- What a report says. -/
structure Content where
  phrase : Option String
  consumingPath : String
  consumingAddress : String
  earningPath : Option String
  earningAddress : String

namespace Content

/-- The lines about the phrase, and an empty one. -/
def phraseLines (colors : Bool) (phrase : String) : String :=
  shownLine colors "\x1b[33m\x1b[22m" recordPhraseNotice ++ shownLine colors "\x1b[36m" phrase ++ "\n"

/-- The content as lines of text. -/
def lines (r : Content) (colors : Bool) : String :=
  (r.phrase.map (phraseLines colors)).getD "" ++
    shownLine colors "\x1b[37m\x1b[22m"
      ("Consuming Wallet (" ++ r.consumingPath ++ "): " ++ r.consumingAddress) ++
    shownLine colors "\x1b[37m\x1b[22m" (match r.earningPath with
      | some path => "  Earning Wallet (" ++ path ++ "): " ++ r.earningAddress
      | none => "  Earning Wallet: " ++ r.earningAddress)

/-- A text under a name. -/
def named (name text : String) : Units × Json.Value := (.ofString name, .text (.ofString text))

/-- The content as a JSON value. -/
def value (r : Content) : Json.Value :=
  .object ((r.phrase.map (named "mnemonicPhrase")).toList ++
    [(.ofString "consumingWallet", .object
        [named "derivationPath" r.consumingPath, named "address" r.consumingAddress]),
      (.ofString "earningWallet", .object
        ((r.earningPath.map (named "derivationPath")).toList ++
          [named "address" r.earningAddress]))])

/-- A text is what is printed of the content: a line with a document that reads as the content, or its
lines. -/
def PrintedAs [Json.Nesting] (r : Content) (colors json : Bool) (printed : String) : Prop :=
  if json then ∃ document : String,
    Json.read document.toList = .ok r.value ∧ printed = shownLine colors "" document
  else printed = r.lines colors

/-- The content holds no control sequences. -/
structure Bare (r : Content) : Prop where
  phrase : ∀ phrase ∈ r.phrase, escapeChar ∉ phrase.toList
  consumingPath : escapeChar ∉ r.consumingPath.toList
  consumingAddress : escapeChar ∉ r.consumingAddress.toList
  earningPath : ∀ path ∈ r.earningPath, escapeChar ∉ path.toList
  earningAddress : escapeChar ∉ r.earningAddress.toList

end Content

/-- What the report of an outcome says. -/
def content (o : Outcome) (consumingPath : String) : Content where
  phrase := o.phrase
  consumingPath := consumingPath
  consumingAddress := o.consuming.address
  earningPath := o.earning.derivationPath
  earningAddress := o.earning.address

variable {o : Outcome} {path : String}

/-- The texts of wallets hold no control sequences, so all depends on the phrase. -/
theorem bare_content {seed : Bytes} {e : Wallet.EarningWallet}
    (hconsuming : Wallet.Identity.derive seed path = .ok o.consuming)
    (hearning : e.identity seed = .ok o.earning)
    (hphrase : ∀ phrase ∈ o.phrase, escapeChar ∉ phrase.toList) : (content o path).Bare := by
  obtain ⟨hpath, haddress⟩ := Wallet.Identity.escape_not_mem_derived hconsuming
  obtain ⟨hearningPath, hearningAddress⟩ := Wallet.EarningWallet.escape_not_mem hearning
  exact ⟨hphrase, hpath, haddress, hearningPath, hearningAddress⟩

theorem shown_eq_shownLine {text : String} (h : escapeChar ∉ text.toList) (s : Console.Style)
    (colors : Bool) : String.ofList (Console.shown colors (s.apply text.toList ++ ['\n'])) =
      shownLine colors (String.ofList s.start) text := by
  have hreset : String.ofList (Console.sequence 0) = "\x1b[0m" := rfl
  rw [Console.shown_styled h, shownLine]
  cases colors <;> simp [String.ofList_append, String.append_assoc, hreset]

theorem line_eq {text : String} (h : escapeChar ∉ text.toList) (colors : Bool)
    (color : Console.Color) : line colors color text =
      shownLine colors (String.ofList (Console.Style.plain color).start) text :=
  shown_eq_shownLine h _ _

theorem escape_not_mem_append {a b : String} (ha : escapeChar ∉ a.toList)
    (hb : escapeChar ∉ b.toList) : escapeChar ∉ (a ++ b).toList := by
  rw [String.toList_append, List.mem_append, not_or]
  exact ⟨ha, hb⟩

theorem escape_not_mem_notice : escapeChar ∉ recordPhraseNotice.toList := by
  unfold recordPhraseNotice
  refine escape_not_mem_append (escape_not_mem_append ?_ ?_) ?_ <;> simp [escapeChar]

theorem escape_not_mem_consumingLine (hpath : o.consuming.derivationPath = some path)
    (h : (content o path).Bare) : escapeChar ∉ (consumingLine o.consuming).toList := by
  unfold consumingLine
  rw [hpath]
  refine escape_not_mem_append (escape_not_mem_append (escape_not_mem_append ?_ ?_) ?_) ?_
  · decide
  · exact h.consumingPath
  · decide
  · exact h.consumingAddress

theorem escape_not_mem_earningLine (h : (content o path).Bare) :
    escapeChar ∉ (earningLine o.earning).toList := by
  unfold earningLine
  split
  · next path' hpath' =>
    refine escape_not_mem_append (escape_not_mem_append (escape_not_mem_append ?_ ?_) ?_)
      h.earningAddress
    · decide
    · exact h.earningPath path' hpath'
    · decide
  · exact escape_not_mem_append (by decide) h.earningAddress

theorem phrasePainted_eq {phrase : String} (h : escapeChar ∉ phrase.toList) (colors : Bool) :
    phrasePainted colors phrase = Content.phraseLines colors phrase := by
  have hyellow : String.ofList (Console.Style.plain .yellow).start = "\x1b[33m\x1b[22m" := by decide
  have hcyan : String.ofList (Console.Style.start ⟨some .cyan, none⟩) = "\x1b[36m" := by decide
  have hblank : String.ofList (Console.shown colors ['\n']) = "\n" := by cases colors <;> rfl
  rw [phrasePainted, Content.phraseLines, line_eq escape_not_mem_notice, hyellow,
    Emitter.secretShown, shown_eq_shownLine h, hcyan, hblank]

theorem line_consuming (hpath : o.consuming.derivationPath = some path)
    (h : (content o path).Bare) (colors : Bool) :
    line colors .white (consumingLine o.consuming) = shownLine colors "\x1b[37m\x1b[22m"
      ("Consuming Wallet (" ++ path ++ "): " ++ o.consuming.address) := by
  have hline := line_eq (escape_not_mem_consumingLine hpath h) colors .white
  have hwhite : String.ofList (Console.Style.plain .white).start = "\x1b[37m\x1b[22m" := by decide
  have htext : consumingLine o.consuming =
      "Consuming Wallet (" ++ path ++ "): " ++ o.consuming.address := by
    unfold consumingLine
    rw [hpath]
    rfl
  rw [hline, hwhite, htext]

theorem line_earning (h : (content o path).Bare) (colors : Bool) :
    line colors .white (earningLine o.earning) = shownLine colors "\x1b[37m\x1b[22m"
      (match o.earning.derivationPath with
        | some path => "  Earning Wallet (" ++ path ++ "): " ++ o.earning.address
        | none => "  Earning Wallet: " ++ o.earning.address) := by
  have hline := line_eq (escape_not_mem_earningLine h) colors .white
  have hwhite : String.ofList (Console.Style.plain .white).start = "\x1b[37m\x1b[22m" := by decide
  have htext : earningLine o.earning = match o.earning.derivationPath with
      | some path => "  Earning Wallet (" ++ path ++ "): " ++ o.earning.address
      | none => "  Earning Wallet: " ++ o.earning.address := rfl
  rw [hline, hwhite, htext]

/-- What is printed as text of an outcome whose texts hold no control sequences. -/
theorem painted_text (hpath : o.consuming.derivationPath = some path) (h : (content o path).Bare)
    (colors : Bool) : painted colors o false = (content o path).lines colors := by
  have hphrase : o.phrase.map (phrasePainted colors) = o.phrase.map (Content.phraseLines colors) :=
    Option.map_congr fun phrase hmem => phrasePainted_eq (h.phrase phrase hmem) colors
  rw [painted, if_neg Bool.false_ne_true, walletsPainted, line_consuming hpath h, line_earning h,
    hphrase, ← String.append_assoc]
  rfl

theorem report_eq_value (hpath : o.consuming.derivationPath = some path) :
    o.report = (content o path).value := by
  rw [Outcome.report, Content.value, Outcome.walletEntry, hpath, Outcome.walletEntry]
  simp only [content]
  cases o.earning.derivationPath <;> rfl

/-- What is printed of an outcome whose texts hold no control sequences. -/
theorem printedAs_painted [Json.Nesting] (hpath : o.consuming.derivationPath = some path)
    (h : (content o path).Bare) (colors json : Bool) :
    (content o path).PrintedAs colors json (painted colors o json) := by
  cases json with
  | false => exact painted_text hpath h colors
  | true =>
    refine ⟨String.ofList (Json.write o.report), ?_, ?_⟩
    · rw [String.toList_ofList, read_report, report_eq_value hpath]
    · have hreset : String.ofList (Console.sequence 0) = "\x1b[0m" := rfl
      rw [painted_json, shownLine]
      cases colors <;> simp [String.ofList_append, String.append_assoc, hreset]

end HdProvision.Provision.Report
