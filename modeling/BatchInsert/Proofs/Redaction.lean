import BatchInsert.Postgres.Options
import BatchInsert.Proofs.EuropeanNames
import BatchInsert.Proofs.Journal
import BatchInsert.Proofs.Userinfo

/-!
# Passwords in a URL

The password that stands after the user at the beginning of a URL does not show: not in the redacted
text, hence neither in what is logged nor in the text of anything that holds the URL. Texts without
an `@`, and with them passwords among the options of a connection string, are left as they are.
-/

namespace BatchInsert.Proofs

open Database (Backend Credentials Driver Target)
open Url

/-! ### URLs with a user and a password -/

/-- The scheme that the reader finds before the first colon. -/
def schemeBefore? (cs : List Char) : Option (List Char) :=
  (schemeRest? [] (cleanFront cs ++ [':'])).map Prod.fst

/-- The characters at which a reader takes the user and the password to be over: a backslash counts
in URLs of files and of the special schemes. -/
def endsLogin (scheme : List Char) : Char → Bool :=
  endsAuthority ((schemeBefore? scheme).any (family · != .other))

lemma endsLogin_eq {cs scheme : List Char} (h : schemeBefore? cs = some scheme) :
    endsLogin cs = endsAuthority (family scheme != .other) := by
  rw [endsLogin, h]
  rfl

/-- A URL with a user and a place for the password. -/
structure Login where
  scheme : List Char
  user : List Char
  /-- What follows the `@` of the password. -/
  rest : List Char
  scheme_plain : ':' ∉ scheme
  user_plain : ':' ∉ user
  user_open : ∀ c ∈ user, endsLogin scheme c = false

/-- A password at its place in a URL. Tabs and line ends count for nothing there. -/
structure Login.Password (l : Login) where
  chars : List Char
  chars_open : ∀ c ∈ chars, endsLogin l.scheme c = false
  counts : ∃ c ∈ chars, isDropped c = false

namespace Login

variable (l : Login)

def chars (p : l.Password) : List Char :=
  l.scheme ++ ':' :: '/' :: '/' :: (l.user ++ ':' :: (p.chars ++ '@' :: l.rest))

def text (p : l.Password) : String := String.ofList (l.chars p)

lemma clean_chars (p : l.Password) :
    clean (l.chars p) = cleanFront l.scheme ++ ':' :: '/' :: '/' ::
      (kept l.user ++ ':' :: (kept p.chars ++ '@' :: cleanBack l.rest)) := by
  have hcolon : isOuter ':' = false := by decide
  have hat : isOuter '@' = false := by decide
  have hfront : kept ('/' :: '/' :: (l.user ++ ':' :: p.chars)) =
      '/' :: '/' :: (kept l.user ++ ':' :: kept p.chars) := by
    simp [kept, isDropped]
  have h := cleanBack_append_cons hat ('/' :: '/' :: (l.user ++ ':' :: p.chars)) l.rest
  rw [hfront] at h
  rw [chars, clean_append_cons hcolon]
  simpa using h

lemma covers_read [Names] [LawfulNames] :
    ∃ found, ∀ p : l.Password, Covers found (Url.read (l.chars p)) := by
  have hplain {cs : List Char} (hcs : ':' ∉ cs) : ':' ∉ kept cs :=
    fun h => hcs (List.mem_of_mem_filter h)
  have hscheme : ':' ∉ cleanFront l.scheme :=
    fun h => l.scheme_plain ((List.dropWhile_suffix _).subset (List.mem_of_mem_filter h))
  have hread (p : l.Password) := schemeRest?_append hscheme []
    ('/' :: '/' :: (kept l.user ++ ':' :: (kept p.chars ++ '@' :: cleanBack l.rest)))
  cases hfound : schemeRest? [] (cleanFront l.scheme ++ [':']) with
  | none =>
    refine ⟨none, ?_⟩
    intro p
    rw [Url.read, clean_chars, hread, hfound]
    exact covers_error .noScheme
  | some found =>
    obtain ⟨scheme, rest⟩ := found
    have hends : endsLogin l.scheme = endsAuthority (family scheme != .other) :=
      endsLogin_eq (by rw [schemeBefore?, hfound]; rfl)
    have hkept {cs : List Char} (hcs : ∀ c ∈ cs, endsLogin l.scheme c = false) :
        ∀ c ∈ kept cs, endsAuthority (family scheme != .other) c = false :=
      fun c hc => hends ▸ hcs c (List.mem_of_mem_filter hc)
    obtain ⟨url, hcovers⟩ :=
      covers_readScheme (hplain l.user_plain) (hkept l.user_open) (cleanBack l.rest)
    refine ⟨url, ?_⟩
    intro p
    have hrest := hread p
    rw [hfound, ← clean_chars] at hrest
    rw [read_of_schemeRest? hrest]
    exact hcovers (kept p.chars) (kept_ne_nil p.counts) (hkept p.chars_open)

/-- The redacted text is the same for all passwords. -/
theorem redact_text [Names] [LawfulNames] (p q : l.Password) : redact (l.text p) = redact
    (l.text q) := by
  obtain ⟨found, hcovers⟩ := l.covers_read
  have hredact (p : l.Password) : redact (l.text p) = (found.map Url.text).getD "***" := by
    obtain ⟨hcovered, hpassword⟩ := hcovers p
    have hat : '@' ∈ l.chars p := by simp [chars]
    rw [redact, text, String.toList_ofList, ← hcovered]
    cases hread : Url.read (l.chars p) with
    | error e => simp [hat, Except.toOption]
    | ok u => simp [hpassword u hread, Except.toOption]
  rw [hredact p, hredact q]

end Login

/-! ### Texts that are left as they are -/

lemma redact_of_not_mem [Names] {raw : String} (hraw : '@' ∉ raw.toList) : redact raw = raw := by
  rw [redact]
  cases hread : Url.read raw.toList with
  | error e => simp [hraw]
  | ok u => simp [read_password hraw hread]

lemma schemeRest?_of_equals {key : List Char} (hkey : ':' ∉ key) (acc rest : List Char) :
    schemeRest? acc (key ++ '=' :: rest) = none := by
  induction key generalizing acc with
  | nil => simp [schemeRest?]
  | cons c key ih =>
    obtain ⟨hc, hkey⟩ := not_or.mp (mt List.mem_cons.mpr hkey)
    simp only [List.cons_append, schemeRest?, beq_iff_eq, Ne.symm hc, if_false, ih hkey, ite_self]

lemma redact_pairs [Names] {key : List Char} (hkey : ':' ∉ key) (rest : List Char) :
    redact (String.ofList (key ++ '=' :: rest)) =
      if '@' ∈ key ++ '=' :: rest then "***" else String.ofList (key ++ '=' :: rest) := by
  have hfront : ':' ∉ cleanFront key :=
    fun h => hkey ((List.dropWhile_suffix _).subset (List.mem_of_mem_filter h))
  have hread : Url.read (key ++ '=' :: rest) = .error .noScheme := by
    rw [Url.read, clean_append_cons (by decide), schemeRest?_of_equals hfront]
  rw [redact, String.toList_ofList, hread]
  simp

/-! ### Where a URL shows -/

variable {ω κ τ : Type}

/-- The writer with another URL in its plan. -/
def atUrl (url : String) (x : Writer ω κ τ) : Writer ω κ τ :=
  { x with plan := { x.plan with url } }

/-- What shows of the URL of a draft, a target and a writer's plan, and of the writer's opening. -/
structure UrlView where
  redacted : String
  draft : String
  target : String
  plan : String
  writer : String
  opening : List Log.Entry

def urlView [Names] (d : Draft) (credentials : Option Credentials) (x : MemoryWriter)
    (index total : Nat) (w : Memory.World) (url : String) : UrlView where
  redacted := redact url
  draft := { d with url := some url : Draft }.inspect
  target := (⟨url, credentials⟩ : Target).inspect
  plan := (atUrl url x).plan.inspect
  writer := (atUrl url x).inspect
  opening := ((atUrl url x).start Memory.backend index total w).log

lemma start_log_eq [Names] (b : Backend ω κ τ) (x : Writer ω κ τ) {w : ω} {url url' : String}
    (hurl : redact url = redact url')
    (hresult : ((atUrl url x).connect b w).result = ((atUrl url' x).connect b w).result)
    (hlog : ((atUrl url x).connect b w).log = ((atUrl url' x).connect b w).log)
    (index total : Nat) :
    ((atUrl url x).start b index total w).log = ((atUrl url' x).start b index total w).log := by
  have hphase (url : String) : (atUrl url x).phase = x.phase := rfl
  have hplan (url : String) : (atUrl url x).plan.url = url ∧
      (atUrl url x).plan.batchSize = x.plan.batchSize ∧
      (atUrl url x).openSpan index total = x.openSpan index total := ⟨rfl, rfl, rfl⟩
  simp only [Writer.start, hphase]
  cases x.phase with
  | active s => rfl
  | closed => rfl
  | unopened =>
    simp only [hplan, hresult, hlog, hurl]
    cases ((atUrl url' x).connect b w).result <;> rfl

lemma connect_eq {x : MemoryWriter}
    (hmemory : ∀ d, x.registry.find? x.plan.driver = some d → d = Memory.driver)
    (w : Memory.World) (url url' : String) :
    ((atUrl url x).connect Memory.backend w).result =
        ((atUrl url' x).connect Memory.backend w).result ∧
      ((atUrl url x).connect Memory.backend w).log =
        ((atUrl url' x).connect Memory.backend w).log := by
  simp only [atUrl, Writer.connect, Registry.resolve]
  cases hd : x.registry.find? x.plan.driver with
  | none => exact ⟨rfl, rfl⟩
  | some d =>
    rw [hmemory d hd]
    cases hconnect : w.faults.contains .connect with
    | true =>
      simp only [Memory.driver, Memory.connect, hconnect, if_true, Database.Reply.fail, and_self]
    | false =>
      simp only [Memory.driver, Memory.connect, hconnect, Bool.false_eq_true, if_false,
        Database.Reply.ok, Memory.backend, Memory.prepare, Memory.World.record]
      cases hprepare : w.faults.contains .prepare with
      | false => exact ⟨rfl, rfl⟩
      | true =>
        simp only [if_true, Database.Reply.fail, Memory.closeConnection]
        cases w.faults.contains .closeConnection <;> exact ⟨trivial, rfl⟩

lemma urlView_eq [Names] {x : MemoryWriter}
    (hmemory : ∀ d, x.registry.find? x.plan.driver = some d → d = Memory.driver) (d : Draft)
    (credentials : Option Credentials) (index total : Nat) (w : Memory.World) {url url' : String}
    (hurl : redact url = redact url') :
    urlView d credentials x index total w url = urlView d credentials x index total w url' := by
  obtain ⟨hresult, hlog⟩ := connect_eq hmemory w url url'
  have hplan : (atUrl url x).plan.inspect = (atUrl url' x).plan.inspect := by
    simp only [Plan.inspect, atUrl, hurl]
  simp only [urlView, Draft.inspect, Target.inspect, Writer.inspect, hplan, hurl, Option.map_some,
    start_log_eq Memory.backend x hurl hresult hlog]
  rfl

/-- A password after the user, at the beginning of a URL of any scheme, shows nowhere: URLs that
differ in it have the same redacted text, and so have the drafts, targets, plans and writers that
hold them, and what opening logs. A text without an `@` is left as it is, whatever its options are,
and a list of keys and values is covered as a whole if there is an `@` in it. -/
theorem login_password_unseen [Names] [LawfulNames] :
    (∀ (l : Login) (p q : l.Password),
      redact (l.text p) = redact (l.text q) ∧
      (∀ (x : MemoryWriter),
        (∀ d, x.registry.find? x.plan.driver = some d → d = Memory.driver) →
        ∀ (d : Draft) (credentials : Option Credentials) (index total : Nat) (w : Memory.World),
          urlView d credentials x index total w (l.text p) =
            urlView d credentials x index total w (l.text q)) ∧
      ∀ (ω κ τ : Type) (b : Backend ω κ τ) (x : Writer ω κ τ) (w : ω),
        ((atUrl (l.text p) x).connect b w).result = ((atUrl (l.text q) x).connect b w).result →
        ((atUrl (l.text p) x).connect b w).log = ((atUrl (l.text q) x).connect b w).log →
        ∀ index total, ((atUrl (l.text p) x).start b index total w).log =
          ((atUrl (l.text q) x).start b index total w).log) ∧
    (∀ raw : String, '@' ∉ raw.toList → redact raw = raw) ∧
    ∀ key rest : List Char, ':' ∉ key →
      redact (String.ofList (key ++ '=' :: rest)) =
        if '@' ∈ key ++ '=' :: rest then "***" else String.ofList (key ++ '=' :: rest) := by
  refine ⟨?_, fun raw hraw => redact_of_not_mem hraw, fun key rest hkey => redact_pairs hkey rest⟩
  intro l p q
  have hurl := l.redact_text p q
  refine ⟨hurl, ?_, ?_⟩
  · intro x hmemory d credentials index total w
    exact urlView_eq hmemory d credentials index total w hurl
  · intro ω κ τ b x w hresult hlog index total
    exact start_log_eq b x hurl hresult hlog index total

lemma open_on_postgres {cs : List Char} (h : cs.all (!endsAuthority false ·) = true) :
    ∀ c ∈ cs, endsLogin "postgres".toList c = false := by
  have hscheme : schemeBefore? "postgres".toList = some "postgres".toList := by decide +kernel
  have hfamily : family "postgres".toList = .other := by decide +kernel
  rw [endsLogin_eq hscheme, hfamily]
  simpa using h

/-- A user of a database of orders. -/
def ordersLogin : Login where
  scheme := "postgres".toList
  user := "app".toList
  rest := "db:5432/orders".toList
  scheme_plain := by decide
  user_plain := by decide
  user_open := open_on_postgres (by decide +kernel)

def firstPassword : ordersLogin.Password where
  chars := "hunter2".toList
  chars_open := open_on_postgres (by decide +kernel)
  counts := ⟨'h', by decide, by decide⟩

/-- A password may have the marks in it that separate it from the user and the host. -/
def secondPassword : ordersLogin.Password where
  chars := "p@ss:word".toList
  chars_open := open_on_postgres (by decide +kernel)
  counts := ⟨'w', by decide, by decide⟩

open scoped Url.European

theorem login_password_unseen_of_orders :
    let x : MemoryWriter := .ofPlan pairsPlan memoryOnly
    (∀ d, memoryOnly.find? pairsPlan.driver = some d → d = Memory.driver) ∧
      ordersLogin.text firstPassword = "postgres://app:hunter2@db:5432/orders" ∧
      redact (ordersLogin.text firstPassword) = "postgres://app:***@db:5432/orders" ∧
      redact (ordersLogin.text firstPassword) = redact (ordersLogin.text secondPassword) ∧
      urlView .empty none x 0 1 .start (ordersLogin.text firstPassword) =
        urlView .empty none x 0 1 .start (ordersLogin.text secondPassword) ∧
      ((atUrl (ordersLogin.text firstPassword) x).start Memory.backend 0 1 .start).log =
        ((atUrl (ordersLogin.text secondPassword) x).start Memory.backend 0 1 .start).log ∧
      redact "postgres://db/orders?password=hunter2" = "postgres://db/orders?password=hunter2" ∧
      redact (String.ofList ("user".toList ++ '=' :: "app@db password=hunter2".toList)) =
        "***" := by
  intro x
  have hmemory : ∀ d, memoryOnly.find? pairsPlan.driver = some d → d = Memory.driver := by
    intro d hd
    exact Option.some.inj (hd.symm.trans memoryOnly_find?)
  obtain ⟨hlogins, htexts, hpairs⟩ := login_password_unseen
  obtain ⟨hredact, hview, hopening⟩ := hlogins ordersLogin firstPassword secondPassword
  have htext : ordersLogin.text firstPassword = "postgres://app:hunter2@db:5432/orders" := by
    decide +kernel
  have hcovered : redact (ordersLogin.text firstPassword) =
      "postgres://app:***@db:5432/orders" := by
    decide +kernel
  have hview := hview x hmemory .empty none 0 1 .start
  obtain ⟨hresult, hlog⟩ := connect_eq (x := x) hmemory .start (ordersLogin.text firstPassword)
    (ordersLogin.text secondPassword)
  have hlog := hopening _ _ _ Memory.backend x .start hresult hlog 0 1
  have hquery := htexts "postgres://db/orders?password=hunter2" (by decide)
  have hpair := (hpairs "user".toList "app@db password=hunter2".toList (by decide)).trans
    (if_pos (by decide))
  exact ⟨hmemory, htext, hcovered, hredact, hview, hlog, hquery, hpair⟩

/-- The password that the PostgreSQL driver finds in a connection string. -/
def postgresPassword? (s : String) : Option (List UInt8) :=
  (Postgres.Options.ofText? s).bind Postgres.Options.password

/-- Whether two connection strings have passwords that the PostgreSQL driver tells apart, and their
redacted texts tell them apart as well. -/
def PasswordsShown [Names] (s s' : String) : Prop :=
  (postgresPassword? s).isSome ∧ (postgresPassword? s').isSome ∧
    postgresPassword? s ≠ postgresPassword? s' ∧ redact s ≠ redact s'

instance [Names] (s s' : String) : Decidable (PasswordsShown s s') :=
  inferInstanceAs (Decidable (_ ∧ _ ∧ _ ∧ _))

/-- Among keys and values, in a query, and behind a slash or as a line end after the user, the
driver takes characters for a password that the redacted text shows. -/
theorem options_password_shown :
    PasswordsShown "host=h user=u password=a" "host=h user=u password=b" ∧
      PasswordsShown "postgres://u@h/d?password=a" "postgres://u@h/d?password=b" ∧
      PasswordsShown "postgres://u:1/a@h/d" "postgres://u:1/b@h/d" ∧
      PasswordsShown "postgres://u:\t@h/d" "postgres://u:\n@h/d" := by
  decide +kernel

end BatchInsert.Proofs
