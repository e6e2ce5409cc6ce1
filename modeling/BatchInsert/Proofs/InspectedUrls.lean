import BatchInsert.Proofs.PercentText
import BatchInsert.Proofs.Redaction
import BatchInsert.Settings.Basic

/-!
# Passwords of URLs in inspected texts

Drafts, plans, targets and writers show the redacted URL, so two of them that differ in the password
of the URL alone have the same text. Settings show the URL as it is, and with it the password.
-/

namespace BatchInsert.Proofs

open Database (Target)

/-! ### Letters and digits -/

lemma forall_alphanumeric {P : Char → Prop}
    (h : ∀ n < 128, (Char.ofNat n).isAlphanum = true → P (Char.ofNat n)) {c : Char}
    (hc : c.isAlphanum = true) : P c :=
  forall_char_lt (P := fun c => c.isAlphanum = true → P c) h (toNat_lt_of_isAlphanum hc) hc

/-- A password of letters and digits. -/
structure PlainPassword where
  chars : List Char
  ne_nil : chars ≠ []
  alphanumeric : ∀ c ∈ chars, c.isAlphanum = true

namespace PlainPassword

/-- The password at its place in a URL. -/
def within (p : PlainPassword) (l : Login) : l.Password where
  chars := p.chars
  chars_open c hc := by
    have hopen (special : Bool) : Url.endsAuthority special c = false :=
      forall_alphanumeric (P := fun c => Url.endsAuthority special c = false)
        (by cases special <;> decide +kernel) (p.alphanumeric c hc)
    exact hopen _
  counts := by
    obtain ⟨c, hc⟩ := List.exists_mem_of_ne_nil p.chars p.ne_nil
    exact ⟨c, hc, forall_alphanumeric (P := fun c => isDropped c = false) (by decide +kernel)
      (p.alphanumeric c hc)⟩

lemma flatMap_escape (p : PlainPassword) : p.chars.flatMap Text.escape = p.chars := by
  have hchar : ∀ c ∈ p.chars, Text.escape c = [c] := fun c hc =>
    forall_alphanumeric (P := fun c => Text.escape c = [c]) (by decide +kernel)
      (p.alphanumeric c hc)
  rw [List.flatMap_congr hchar, List.flatMap_singleton']

end PlainPassword

/-! ### Settings -/

lemma quoted_text (l : Login) :
    ∃ front back, ∀ p : PlainPassword,
      Text.quoted (l.text (p.within l)) = front ++ String.ofList p.chars ++ back := by
  let front := l.scheme ++ ':' :: '/' :: '/' :: (l.user ++ [':'])
  refine ⟨String.ofList ('"' :: front.flatMap Text.escape),
    String.ofList (('@' :: l.rest).flatMap Text.escape ++ ['"']), ?_⟩
  intro p
  have hchars : l.chars (p.within l) = front ++ p.chars ++ '@' :: l.rest := by
    simp [Login.chars, PlainPassword.within, front]
  rw [Text.quoted, Login.text, String.toList_ofList, hchars, List.flatMap_append,
    List.flatMap_append, p.flatMap_escape, ← String.ofList_append, ← String.ofList_append]
  simp

lemma inspect_url (s : Settings) :
    ∃ front back, ∀ url : String,
      ({ s with url } : Settings).inspect = front ++ Text.quoted url ++ back := by
  refine ⟨"SinkSettings \x7b driver: " ++ Text.quoted s.driver ++ ", url: ",
    ", username: " ++ Text.Inspect.option Text.quoted s.username ++
      ", password: " ++ Text.Inspect.option Secret.text s.password ++
      ", insert_statement: " ++ Text.quoted s.statement ++
      ", batch_size: " ++ Text.decimal s.batchSize ++
      ", column_types: " ++ inspectTypes s.columnTypes ++ " \x7d", ?_⟩
  intro url
  apply String.toList_injective
  simp [Settings.inspect, Text.Inspect.record]

/-! ### The password of a URL -/

/-- What is inspected of a draft, a plan, a target or a writer is the same for all passwords of the
URL, as the URL is redacted there. What is inspected of settings has the password in it, between two
texts that do not depend on it. -/
theorem url_password_inspected [Url.Names] [Url.LawfulNames] (l : Login) :
    (∀ p q : PlainPassword,
      (∀ d : Draft, ({ d with url := some (l.text (p.within l)) } : Draft).inspect =
        ({ d with url := some (l.text (q.within l)) } : Draft).inspect) ∧
      (∀ plan : Plan, ({ plan with url := l.text (p.within l) } : Plan).inspect =
        ({ plan with url := l.text (q.within l) } : Plan).inspect) ∧
      (∀ t : Target, ({ t with url := l.text (p.within l) } : Target).inspect =
        ({ t with url := l.text (q.within l) } : Target).inspect) ∧
      ∀ (ω κ τ : Type) (x : Writer ω κ τ),
        (atUrl (l.text (p.within l)) x).inspect = (atUrl (l.text (q.within l)) x).inspect) ∧
    ∀ s : Settings, ∃ front back, ∀ p : PlainPassword,
      ({ s with url := l.text (p.within l) } : Settings).inspect =
        front ++ String.ofList p.chars ++ back := by
  refine ⟨?_, ?_⟩
  · intro p q
    have hredact := l.redact_text (p.within l) (q.within l)
    have hplan (plan : Plan) : ({ plan with url := l.text (p.within l) } : Plan).inspect =
        ({ plan with url := l.text (q.within l) } : Plan).inspect := by
      simp only [Plan.inspect, hredact]
    refine ⟨?_, hplan, ?_, ?_⟩
    · intro d
      simp only [Draft.inspect, Option.map_some, hredact]
    · intro t
      simp only [Target.inspect, hredact]
    · intro ω κ τ x
      simp only [Writer.inspect, atUrl, hplan]
      rfl
  · intro s
    obtain ⟨before, after, hinspect⟩ := inspect_url s
    obtain ⟨front, back, hquoted⟩ := quoted_text l
    refine ⟨before ++ front, back ++ after, ?_⟩
    intro p
    rw [hinspect, hquoted]
    simp only [String.append_assoc]

def hunterPassword : PlainPassword :=
  ⟨"hunter2".toList, by decide, List.all_eq_true.mp (by decide)⟩

def letmeinPassword : PlainPassword :=
  ⟨"letmein".toList, by decide, List.all_eq_true.mp (by decide)⟩

/-- Settings for the database of orders. -/
def ordersSettings (p : PlainPassword) : Settings :=
  ⟨"mem", ordersLogin.text (p.within ordersLogin), none, none, "INSERT INTO t VALUES (?)", 5, none⟩

open scoped Url.European

theorem url_password_inspected_of_orders :
    let url (p : PlainPassword) : String := ordersLogin.text (p.within ordersLogin)
    url hunterPassword = "postgres://app:hunter2@db:5432/orders" ∧
      ({ Draft.empty with url := some (url hunterPassword) } : Draft).inspect =
        ({ Draft.empty with url := some (url letmeinPassword) } : Draft).inspect ∧
      ({ pairsPlan with url := url hunterPassword } : Plan).inspect =
        ({ pairsPlan with url := url letmeinPassword } : Plan).inspect ∧
      (⟨url hunterPassword, none⟩ : Target).inspect =
        (⟨url letmeinPassword, none⟩ : Target).inspect ∧
      (atUrl (url hunterPassword) (.ofPlan pairsPlan memoryOnly) : MemoryWriter).inspect =
        (atUrl (url letmeinPassword) (.ofPlan pairsPlan memoryOnly) : MemoryWriter).inspect ∧
      ∃ front back, (ordersSettings hunterPassword).inspect = front ++ "hunter2" ++ back ∧
        (ordersSettings letmeinPassword).inspect = front ++ "letmein" ++ back := by
  intro url
  obtain ⟨hcovered, hshown⟩ := url_password_inspected ordersLogin
  obtain ⟨hdraft, hplan, htarget, hwriter⟩ := hcovered hunterPassword letmeinPassword
  obtain ⟨front, back, hsettings⟩ := hshown (ordersSettings hunterPassword)
  have hurl : url hunterPassword = "postgres://app:hunter2@db:5432/orders" := by decide +kernel
  exact ⟨hurl, hdraft .empty, hplan pairsPlan, htarget ⟨url hunterPassword, none⟩,
    hwriter _ _ _ (.ofPlan pairsPlan memoryOnly), front, back, hsettings hunterPassword,
    hsettings letmeinPassword⟩

/-- Two passwords of one URL are told apart by the text of the settings. -/
theorem settings_tell_url_passwords :
    let settings (url : String) : Settings :=
      ⟨"mem", url, none, none, "INSERT INTO t VALUES (?)", 5, none⟩
    (settings "postgres://app:hunter2@db/app").inspect ≠
      (settings "postgres://app:letmein@db/app").inspect := by
  decide +kernel

end BatchInsert.Proofs
