import BatchInsert.Proofs.Hosts
import BatchInsert.Url

/-!
# The user and the password of a URL

The reader takes what stands before the last `@` of the authority for a user and a password. The
password decides nothing that is read besides itself, and without an `@` there is none.
-/

namespace BatchInsert.Proofs

open Url

/-! ### Taking and dropping up to a character -/

section Lists

variable {α : Type} {p : α → Bool} {c : α}

lemma dropWhile_append_cons (hc : p c = false) (front back : List α) :
    (front ++ c :: back).dropWhile p = front.dropWhile p ++ c :: back := by
  rw [List.dropWhile_append]
  split
  · rename_i h
    rw [List.isEmpty_iff.mp h, List.dropWhile_cons_of_neg (by simp [hc]), List.nil_append]
  · rfl

lemma takeWhile_append_cons (hc : p c = false) {front : List α} (hfront : ∀ a ∈ front, p a)
    (back : List α) : (front ++ c :: back).takeWhile p = front := by
  rw [List.takeWhile_append_of_pos hfront, List.takeWhile_cons_of_neg (by simp [hc]),
    List.append_nil]

lemma takeWhile_append_cons_eq (hc : p c = false) (front back : List α) :
    (front ++ c :: back).takeWhile p = front.takeWhile p := by
  rw [List.takeWhile_append]
  split
  · rename_i h
    rw [List.takeWhile_cons_of_neg (by simp [hc]), List.append_nil]
    exact (List.IsPrefix.eq_of_length (List.takeWhile_prefix p) h).symm
  · rfl

end Lists

/-! ### Cleaning -/

/-- Tabs and line ends, which the reader drops wherever they stand. -/
def isDropped (c : Char) : Bool := c == '\t' || c == '\n' || c == '\r'

def kept (cs : List Char) : List Char := cs.filter (!isDropped ·)

lemma kept_ne_nil {cs : List Char} (h : ∃ c ∈ cs, isDropped c = false) : kept cs ≠ [] := by
  obtain ⟨c, hc, hkept⟩ := h
  exact List.ne_nil_of_mem (List.mem_filter.mpr ⟨hc, by simp [hkept]⟩)

/-- Blanks and controls, which the reader drops at either end. -/
def isOuter (c : Char) : Bool := c.toNat ≤ 0x20

lemma isDropped_eq_false {c : Char} (hc : isOuter c = false) : isDropped c = false := by
  simp only [isDropped, Bool.or_eq_false_iff, beq_eq_false_iff_ne]
  refine ⟨⟨?_, ?_⟩, ?_⟩ <;> rintro rfl <;> exact absurd hc (by decide)

/-- What the cleaning leaves of the characters before one that counts. -/
def cleanFront (cs : List Char) : List Char := kept (cs.dropWhile isOuter)

def cleanBack (cs : List Char) : List Char := kept (cs.reverse.dropWhile isOuter).reverse

section Cleaning

variable {c : Char}

lemma clean_append_cons (hc : isOuter c = false) (front back : List Char) :
    clean (front ++ c :: back) = cleanFront front ++ c :: cleanBack back := by
  -- The blanks at the end are those at the beginning of the reversed text.
  have hreverse (front : List Char) :
      (front ++ c :: back).reverse = back.reverse ++ c :: front.reverse := by
    simp
  calc clean (front ++ c :: back)
      = kept (((front ++ c :: back).dropWhile isOuter).reverse.dropWhile isOuter).reverse := rfl
    _ = kept (front.dropWhile isOuter ++ c :: (back.reverse.dropWhile isOuter).reverse) := by
      rw [dropWhile_append_cons hc, hreverse, dropWhile_append_cons hc]
      simp
    _ = cleanFront front ++ c :: cleanBack back := by
      simp [kept, cleanFront, cleanBack, isDropped_eq_false hc]

lemma cleanBack_append_cons (hc : isOuter c = false) (front back : List Char) :
    cleanBack (front ++ c :: back) = kept front ++ c :: cleanBack back := by
  have hreverse : (front ++ c :: back).reverse = back.reverse ++ c :: front.reverse := by
    simp
  rw [cleanBack, hreverse, dropWhile_append_cons hc]
  simp [kept, cleanBack, isDropped_eq_false hc]

end Cleaning

/-! ### The scheme -/

lemma schemeRest?_append {scheme : List Char} (hscheme : ':' ∉ scheme) (acc rest : List Char) :
    schemeRest? acc (scheme ++ ':' :: rest) =
      (schemeRest? acc (scheme ++ [':'])).map fun found => (found.1, rest) := by
  induction scheme generalizing acc with
  | nil =>
    simp only [List.nil_append, schemeRest?, beq_self_eq_true, if_true]
    split <;> rfl
  | cons c scheme ih =>
    obtain ⟨hc, hscheme⟩ := not_or.mp (mt List.mem_cons.mpr hscheme)
    simp only [List.cons_append, schemeRest?, beq_iff_eq, Ne.symm hc, if_false, ih hscheme]
    split <;> rfl

/-! ### The authority -/

lemma not_endsAuthority_at (special : Bool) : endsAuthority special '@' = false := by
  cases special <;> rfl

lemma not_endsAuthority_colon (special : Bool) : endsAuthority special ':' = false := by
  cases special <;> rfl

lemma splitUserinfo_append (special : Bool) (back : List Char) :
    ∃ more after, ∀ front, (∀ c ∈ front, endsAuthority special c = false) →
      splitUserinfo special (front ++ '@' :: back) = (some (front ++ more), after) := by
  let authority := back.takeWhile (!endsAuthority special ·)
  let host := (authority.reverse.takeWhile (· != '@')).reverse
  have hhost : host.length ≤ authority.length := by
    calc host.length
        = (authority.reverse.takeWhile (· != '@')).length := List.length_reverse
      _ ≤ authority.reverse.length := (List.takeWhile_prefix _).length_le
      _ = authority.length := List.length_reverse
  refine ⟨('@' :: authority).take (authority.length - host.length),
    back.drop (authority.length - host.length), ?_⟩
  intro front hfront
  have hauthority : (front ++ '@' :: back).takeWhile (!endsAuthority special ·) =
      front ++ '@' :: authority := by
    rw [List.takeWhile_append_of_pos (by simpa using hfront),
      List.takeWhile_cons_of_pos (by simp [not_endsAuthority_at])]
  have hlast : ((front ++ '@' :: authority).reverse.takeWhile (· != '@')).reverse = host := by
    rw [show (front ++ '@' :: authority).reverse = authority.reverse ++ '@' :: front.reverse by
      simp, takeWhile_append_cons_eq (by rfl)]
  have huser : (front ++ '@' :: authority).length - host.length - 1 =
      front.length + (authority.length - host.length) := by
    rw [List.length_append, List.length_cons]
    omega
  rw [splitUserinfo, hauthority]
  have hlength : (front ++ ('@' :: authority).take (authority.length - host.length)).length + 1 =
      front.length + (authority.length - host.length + 1) := by
    rw [List.length_append, List.length_take, List.length_cons]
    omega
  simp only [hlast, huser, List.take_length_add_append]
  rw [if_pos (by simp), hlength, List.drop_length_add_append, List.drop_succ_cons]

lemma readUserinfo_append {user : List Char} (huser : ':' ∉ user) {password : List Char}
    (hpassword : password ≠ []) :
    readUserinfo (user ++ ':' :: password) =
      (percentEncode .userinfo user, some (percentEncode .userinfo password)) := by
  have hfront : (user ++ ':' :: password).takeWhile (· != ':') = user :=
    takeWhile_append_cons (by rfl) (by
      intro c hc
      simpa using ne_of_mem_of_not_mem hc huser) password
  have hback : (user ++ ':' :: password).drop (user.length + 1) = password := by
    rw [List.drop_length_add_append, List.drop_succ_cons, List.drop_zero]
  simp only [readUserinfo, hfront, hback, List.isEmpty_iff, hpassword, if_false]

lemma readAuthority_of_split [Names] {scheme cs after : List Char} {userinfo : Option (List Char)}
    (hsplit : splitUserinfo (family scheme == .special) cs = (userinfo, after))
    (huserinfo : userinfo ≠ some []) :
    readAuthority scheme cs =
      (readServer scheme after).bind (joinAuthority (readLogin userinfo)) := by
  have hlone : checkLone (family scheme == .special) userinfo after = .ok () :=
    if_neg (by simp [huserinfo])
  simp only [readAuthority, hsplit, hlone]
  rfl

/-! ### Reading a user and a password -/

/-- What a reader finds where a user and a password stand: a URL with a password, which is `found`
once the password is covered, or none at all. -/
structure Covers (found : Option Url) (reading : Except ReadError Url) : Prop where
  covered : reading.toOption.map maskPassword = found
  password : ∀ u, reading = .ok u → u.password?.isSome = true

section Logins

variable {scheme user : List Char}

lemma readAuthority_login [Names] (huser : ':' ∉ user)
    (hopen : ∀ c ∈ user, endsAuthority (family scheme == .special) c = false) (back : List Char) :
    ∃ more after, ∀ password, password ≠ [] →
      (∀ c ∈ password, endsAuthority (family scheme == .special) c = false) →
      readAuthority scheme (user ++ ':' :: (password ++ '@' :: back)) =
        (readServer scheme after).bind (joinAuthority (percentEncode .userinfo user,
          some (percentEncode .userinfo (password ++ more)))) := by
  obtain ⟨more, after, hsplit⟩ := splitUserinfo_append (family scheme == .special) back
  refine ⟨more, after, ?_⟩
  intro password hpassword hclosed
  have hfront : ∀ c ∈ user ++ ':' :: password,
      endsAuthority (family scheme == .special) c = false := by
    intro c hc
    rcases List.mem_append.mp hc with hc | hc
    · exact hopen c hc
    · rcases List.mem_cons.mp hc with rfl | hc
      · exact not_endsAuthority_colon _
      · exact hclosed c hc
  have hread : readUserinfo (user ++ ':' :: password ++ more) =
      (percentEncode .userinfo user, some (percentEncode .userinfo (password ++ more))) := by
    rw [List.append_assoc, List.cons_append]
    exact readUserinfo_append huser (by simp [hpassword])
  rw [← List.cons_append, ← List.append_assoc, readAuthority_of_split (hsplit _ hfront) (by simp),
    readLogin, hread]

/-- A URL from its authority and what follows. -/
def hierarchy (scheme : List Char) (found : Authority × List Char) : Url :=
  let (path, query?, fragment?) := splitTail found.2
  withTail scheme (some found.1) (readPath (family scheme == .special) path) query? fragment?

lemma readHierarchy_eq [Names] (scheme cs : List Char) :
    readHierarchy scheme cs = (readAuthority scheme cs).map (hierarchy scheme) := by
  rw [readHierarchy]
  cases readAuthority scheme cs <;> rfl

lemma percentEncode_stars : percentEncode .userinfo "***".toList = "***".toList := by decide

lemma withPassword?_stars {u : Url} {a : Authority} (ha : u.authority = some a)
    (hhost : a.host ≠ []) (hfile : family u.scheme ≠ .file) :
    u.withPassword? "***".toList =
      some { u with authority := some { a with password := some "***".toList } } := by
  have htaken : (a.host.isEmpty || family u.scheme == .file) = false := by simp [hhost, hfile]
  rw [withPassword?, ha]
  simp only [htaken, Bool.false_eq_true, if_false, percentEncode_stars]
  rfl

lemma maskPassword_hierarchy {a : Authority} (hhost : a.host ≠ [])
    (hfile : family scheme ≠ .file) (rest : List Char) :
    (hierarchy scheme (a, rest)).maskPassword =
      hierarchy scheme ({ a with password := some "***".toList }, rest) := by
  have hmask := withPassword?_stars (u := hierarchy scheme (a, rest)) rfl hhost hfile
  rw [maskPassword, hmask]
  rfl

lemma covers_error (e : ReadError) : Covers none (.error e) :=
  ⟨rfl, by intro u hu; cases hu⟩

lemma covers_readHierarchy [Names] (hfile : family scheme ≠ .file) (huser : ':' ∉ user)
    (hopen : ∀ c ∈ user, endsAuthority (family scheme == .special) c = false) (back : List Char) :
    ∃ found, ∀ password, password ≠ [] →
      (∀ c ∈ password, endsAuthority (family scheme == .special) c = false) →
      Covers found (readHierarchy scheme (user ++ ':' :: (password ++ '@' :: back))) := by
  obtain ⟨more, after, hread⟩ := readAuthority_login huser hopen back
  cases hserver : readServer scheme after with
  | error e =>
    refine ⟨none, ?_⟩
    intro password hpassword hclosed
    rw [readHierarchy_eq, hread password hpassword hclosed, hserver]
    exact covers_error e
  | ok server =>
    cases hhost : server.1.isEmpty with
    | true =>
      refine ⟨none, ?_⟩
      intro password hpassword hclosed
      rw [readHierarchy_eq, hread password hpassword hclosed, hserver, Except.bind, joinAuthority,
        if_pos (by simp [hhost])]
      exact covers_error .emptyHost
    | false =>
      refine ⟨some (hierarchy scheme (⟨percentEncode .userinfo user, some "***".toList, server.1,
        server.2.1⟩, server.2.2)), ?_⟩
      intro password hpassword hclosed
      rw [readHierarchy_eq, hread password hpassword hclosed, hserver, Except.bind, joinAuthority,
        if_neg (by simp [hhost])]
      refine ⟨congrArg some (maskPassword_hierarchy (by simpa using hhost) hfile _), ?_⟩
      intro u hu
      cases hu
      rfl

lemma isDrive_of_at {cs : List Char} (hcs : '@' ∈ cs) : isDrive cs = false := by
  unfold isDrive
  split
  · rcases List.mem_cons.mp hcs with rfl | hcs
    · rfl
    · obtain rfl := List.mem_singleton.mp hcs
      simp
  · rfl

lemma covers_readFile [Names] [LawfulNames] (hopen : ∀ c ∈ user, endsAuthority true c = false)
    (back : List Char) {password : List Char}
    (hclosed : ∀ c ∈ password, endsAuthority true c = false) :
    Covers none
      (readFile scheme ('/' :: '/' :: (user ++ ':' :: (password ++ '@' :: back)))) := by
  let host := user ++ ':' :: (password ++ '@' :: back.takeWhile (!endsAuthority true ·))
  have hhost : (user ++ ':' :: (password ++ '@' :: back)).takeWhile (!endsAuthority true ·) =
      host := by
    rw [List.takeWhile_append_of_pos (by simpa using hopen),
      List.takeWhile_cons_of_pos (by simp [not_endsAuthority_colon]),
      List.takeWhile_append_of_pos (by simpa using hclosed),
      List.takeWhile_cons_of_pos (by simp [not_endsAuthority_at])]
  have hat : '@' ∈ host := by simp [host]
  have hrefused : (specialHost host).toOption = none := specialHost_of_at hat
  cases hspecial : specialHost host with
  | ok name =>
    rw [hspecial] at hrefused
    cases hrefused
  | error e =>
    have hsplit : (splitFile ('/' :: '/' :: (user ++ ':' :: (password ++ '@' :: back)))).1 =
        host := by
      rw [splitFile, hhost, if_neg (by decide), if_neg (by simp [isDrive_of_at hat])]
    have hread : readFile scheme ('/' :: '/' :: (user ++ ':' :: (password ++ '@' :: back))) =
        .error e := by
      rw [readFile]
      simp only [hsplit, hspecial]
      rw [if_neg (by simp [host])]
      rfl
    exact hread ▸ covers_error e

/-- A URL behind the colon of its scheme. -/
def readScheme [Names] (scheme rest : List Char) : Except ReadError Url :=
  match family scheme with
  | .file => readFile scheme rest
  | .special => readHierarchy scheme (rest.dropWhile isSlash)
  | .other =>
    match rest with
    | '/' :: '/' :: cs => readHierarchy scheme cs
    | cs => .ok (readOpaque scheme cs)

lemma read_of_schemeRest? [Names] {cs rest : List Char}
    (h : schemeRest? [] (clean cs) = some (scheme, rest)) :
    Url.read cs = readScheme scheme rest := by
  rw [Url.read, h]
  rfl

lemma dropWhile_isSlash_user (hopen : ∀ c ∈ user, endsAuthority true c = false)
    (back : List Char) :
    ('/' :: '/' :: (user ++ ':' :: back)).dropWhile isSlash = user ++ ':' :: back := by
  cases user with
  | nil => rfl
  | cons c user =>
    have hc := hopen c List.mem_cons_self
    simp only [endsAuthority, Bool.true_and, Bool.or_eq_false_iff] at hc
    have hslash : isSlash c = false := by
      rw [isSlash, hc.1.1.1, hc.2]
      rfl
    change (c :: (user ++ ':' :: back)).dropWhile isSlash = _
    rw [List.dropWhile_cons_of_neg (by simp [hslash]), List.cons_append]

/-- Whatever the scheme, a URL reads the same besides its password. -/
theorem covers_readScheme [Names] [LawfulNames] (huser : ':' ∉ user)
    (hopen : ∀ c ∈ user, endsAuthority (family scheme != .other) c = false) (back : List Char) :
    ∃ found, ∀ password, password ≠ [] →
      (∀ c ∈ password, endsAuthority (family scheme != .other) c = false) →
      Covers found
        (readScheme scheme ('/' :: '/' :: (user ++ ':' :: (password ++ '@' :: back)))) := by
  simp only [readScheme]
  have hcovers (hfile : family scheme ≠ .file) :
      (∀ c ∈ user, endsAuthority (family scheme == .special) c = false) → _ :=
    fun hopen => covers_readHierarchy hfile huser hopen back
  cases hfamily : family scheme with
  | file =>
    rw [hfamily] at hopen
    exact ⟨none, fun password _ hclosed => covers_readFile hopen back hclosed⟩
  | special =>
    rw [hfamily] at hopen hcovers
    obtain ⟨found, hcovers⟩ := hcovers (by decide) hopen
    refine ⟨found, ?_⟩
    intro password hpassword hclosed
    rw [dropWhile_isSlash_user hopen]
    exact hcovers password hpassword hclosed
  | other =>
    rw [hfamily] at hopen hcovers
    exact hcovers (by decide) hopen

/-! ### Texts without an `@` -/

lemma readAuthority_password [Names] {cs : List Char} (hcs : '@' ∉ cs) {a : Authority}
    {rest : List Char} (h : readAuthority scheme cs = .ok (a, rest)) : a.password = none := by
  have hsplit : splitUserinfo (family scheme == .special) cs = (none, cs) := by
    rw [splitUserinfo, if_neg]
    intro hat
    exact hcs ((List.takeWhile_prefix _).subset (by simpa using hat))
  rw [readAuthority_of_split hsplit (by simp)] at h
  cases hserver : readServer scheme cs with
  | error e => simp [hserver, Except.bind] at h
  | ok server =>
    simp only [hserver, Except.bind, joinAuthority] at h
    split at h
    · cases h
    · cases h
      rfl

lemma clean_subset (cs : List Char) : clean cs ⊆ cs := by
  intro c hc
  have htrimmed := List.mem_reverse.mp (List.mem_of_mem_filter hc)
  have hfront := List.mem_reverse.mp ((List.dropWhile_suffix _).subset htrimmed)
  exact (List.dropWhile_suffix _).subset hfront

lemma schemeRest?_subset {acc cs rest : List Char}
    (h : schemeRest? acc cs = some (scheme, rest)) : rest ⊆ cs := by
  induction cs generalizing acc with
  | nil => simp [schemeRest?] at h
  | cons c cs ih =>
    simp only [schemeRest?] at h
    split at h
    · split at h
      · cases h
      · cases h
        exact List.subset_cons_self c _
    · split at h
      · exact List.subset_cons_of_subset c (ih h)
      · cases h

lemma readHierarchy_password [Names] {cs : List Char} (hcs : '@' ∉ cs) {u : Url}
    (h : readHierarchy scheme cs = .ok u) : u.password? = none := by
  rw [readHierarchy_eq] at h
  cases hread : readAuthority scheme cs with
  | error e => simp [hread, Except.map] at h
  | ok found =>
    rw [hread] at h
    cases h
    exact readAuthority_password hcs hread

lemma readFile_password [Names] {cs : List Char} {u : Url} (h : readFile scheme cs = .ok u) :
    u.password? = none := by
  have hhost (host? : Except ReadError (List Char)) (url : List Char → Url)
      (hurl : ∀ host, (url host).password? = none) (h : host? >>= (pure ∘ url) = .ok u) :
      u.password? = none := by
    cases host? with
    | error e => cases h
    | ok host =>
      cases h
      exact hurl host
  simp only [readFile] at h
  repeat' split at h
  all_goals exact hhost _ _ (fun _ => rfl) h

/-- Without an `@` there is no password. -/
theorem read_password [Names] {cs : List Char} (hcs : '@' ∉ cs) {u : Url}
    (h : Url.read cs = .ok u) :
    u.password? = none := by
  cases hscheme : schemeRest? [] (clean cs) with
  | none =>
    rw [Url.read, hscheme] at h
    cases h
  | some found =>
    obtain ⟨scheme, rest⟩ := found
    have hrest : '@' ∉ rest := fun hat => hcs (clean_subset cs (schemeRest?_subset hscheme hat))
    rw [read_of_schemeRest? hscheme] at h
    unfold readScheme at h
    cases hfamily : family scheme with
    | file =>
      rw [hfamily] at h
      exact readFile_password h
    | special =>
      rw [hfamily] at h
      exact readHierarchy_password (fun hat => hrest ((List.dropWhile_suffix _).subset hat)) h
    | other =>
      simp only [hfamily] at h
      split at h
      · exact readHierarchy_password (by simpa using hrest) h
      · cases h
        rfl

end Logins

end BatchInsert.Proofs
