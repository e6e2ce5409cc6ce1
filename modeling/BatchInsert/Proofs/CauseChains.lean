import BatchInsert.Database.Server
import BatchInsert.Failure
import Mathlib.Data.List.Infix

/-!
# Messages in chains of causes

Each failure of a writer leaves the message of the database to the texts below it. An error of the
driver is built from texts it is handed, and its chain shows each of them once, except that the
error of a rejected statement takes the text of its cause as its own message and keeps the cause,
too.
-/

namespace BatchInsert.Proofs

open Database

/-- The message stands somewhere in the text. -/
def Mentions (m text : String) : Prop := m.toList <:+: text.toList

instance (m text : String) : Decidable (Mentions m text) :=
  inferInstanceAs (Decidable (m.toList <:+: text.toList))

/-- The number of texts with the message. -/
def mentions (m : String) (texts : List String) : Nat := texts.countP (Mentions m ·)

@[simp] lemma mentions_nil (m : String) : mentions m [] = 0 := rfl

@[simp] lemma mentions_cons (m text : String) (texts : List String) :
    mentions m (text :: texts) = mentions m texts + if Mentions m text then 1 else 0 := by
  simp [mentions, List.countP_cons]

lemma mentions_append {m text : String} (h : Mentions m text) (front : String) :
    Mentions m (front ++ text) := by
  rw [Mentions, String.toList_append]
  exact h.trans (List.suffix_append _ _).isInfix

/-! ### Errors of a driver -/

/-- The ways to build an error, with the texts that each is handed. The texts of a cause are its
own, and those below it. -/
inductive Construction
  | connection (message : String)
  | connectionOver (message cause : String) (below : List String)
  | query (message : String)
  | queryOf (message sql : String)
  | rejection (sql cause : String) (below : List String)
  | configuration (message : String)
  | conversion (message : String)
  | driverNotFound (name : String)

namespace Construction

def error : Construction → Error
  | connection message => .connection message []
  | connectionOver message cause below => .connection message (cause :: below)
  | query message => .query message none []
  | queryOf message sql => .query message (some sql) []
  | rejection sql cause below => .rejected sql cause below
  | configuration message => .configuration message
  | conversion message => .conversion message
  | driverNotFound name => .driverNotFound name

/-- The texts to be shown. The SQL is kept apart from them. -/
def given : Construction → List String
  | connection message | query message | queryOf message _ | configuration message |
    conversion message | driverNotFound message => [message]
  | connectionOver message cause below => message :: cause :: below
  | rejection _ cause below => cause :: below

/-- The message is in the text that is shown for the cause and for the error above it. -/
def Repeats (m : String) : Construction → Prop
  | rejection _ cause _ => Mentions m cause
  | _ => False

instance (m : String) : (c : Construction) → Decidable (c.Repeats m)
  | rejection _ cause _ => inferInstanceAs (Decidable (Mentions m cause))
  | connection _ | connectionOver _ _ _ | query _ | queryOf _ _ | configuration _ | conversion _ |
    driverNotFound _ => inferInstanceAs (Decidable False)

end Construction

/-- What an error is named before its message. -/
def errorLabel : Error → String
  | .connection _ _ => "connection error: "
  | .query _ _ _ => "query error: "
  | .conversion _ => "type conversion error: "
  | .configuration _ => "configuration error: "
  | .driverNotFound _ => "driver not found: "

def errorMessage : Error → String
  | .connection message _ | .query message _ _ | .conversion message | .configuration message |
    .driverNotFound message => message

lemma errorText_eq (e : Error) : e.text = errorLabel e ++ errorMessage e := by cases e <;> rfl

/-- The label brings no mention of its own: if the text of the error has the message, so has what
follows the label. -/
def Unlabelled (m : String) (e : Error) : Prop := Mentions m e.text → Mentions m (errorMessage e)

instance (m : String) (e : Error) : Decidable (Unlabelled m e) :=
  inferInstanceAs (Decidable (Mentions m e.text → Mentions m (errorMessage e)))

lemma mentions_text_iff {m : String} {e : Error} (h : Unlabelled m e) :
    Mentions m e.text ↔ Mentions m (errorMessage e) :=
  ⟨h, fun hm => errorText_eq e ▸ mentions_append hm _⟩

lemma mentions_message_causes (m : String) (c : Construction) :
    mentions m (errorMessage c.error :: c.error.causes) =
      mentions m c.given + if c.Repeats m then 1 else 0 := by
  cases c with
  | rejection sql cause below => exact mentions_cons m cause (cause :: below)
  | _ => rfl

lemma mentions_error_chain {m : String} {c : Construction} (h : Unlabelled m c.error) :
    mentions m c.error.chain = mentions m c.given + if c.Repeats m then 1 else 0 := by
  rw [← mentions_message_causes, Error.chain, mentions_cons, mentions_cons]
  simp only [mentions_text_iff h]

/-! ### Failures above them -/

/-- A failure of a writer over an error of the driver, by its text and its chain. -/
inductive Wraps (e : Error) : String → List String → Prop
  | failure {f : Failure} (h : f.cause? = some e) : Wraps e f.text f.chain
  | close {f : CloseFailure} (h : f.cause = e) : Wraps e f.text f.chain

lemma Wraps.chain_eq {e : Error} {text : String} {chain : List String} (h : Wraps e text chain) :
    chain = text :: e.chain := by
  cases h with
  | failure h => rw [Failure.chain, h]; rfl
  | close h => rw [CloseFailure.chain, h]

lemma Wraps.mentions_chain {m text : String} {chain : List String} {c : Construction}
    (h : Wraps c.error text chain) (htext : ¬ Mentions m text) (hlabel : Unlabelled m c.error) :
    mentions m chain = mentions m c.given + if c.Repeats m then 1 else 0 := by
  rw [h.chain_eq, mentions_cons, if_neg htext, Nat.add_zero, mentions_error_chain hlabel]

/-- A message that an error is handed once, and that no text of the writer and no label brings
along, stands once in the chain of the failure, except for one in the text of the cause of a
rejected statement, which stands twice. -/
theorem message_in_chain {m text : String} {chain : List String} {c : Construction}
    (h : Wraps c.error text chain) (hgiven : mentions m c.given = 1)
    (htext : ¬ Mentions m text) (hlabel : Unlabelled m c.error) :
    mentions m chain = if c.Repeats m then 2 else 1 := by
  rw [h.mentions_chain htext hlabel, hgiven]
  split <;> rfl

/-- Once in the cause of a connection that could not be made, and once below the cause of a rejected
statement. -/
theorem message_in_chain_of_cause :
    mentions "refused" (Failure.opening (.connection (.connection "failed to connect"
        ["error connecting to server", "Connection refused"]))).chain = 1 ∧
      mentions "deadlock detected" (CloseFailure.flush 4 (.rejected "INSERT INTO t VALUES (?)"
        "db error" ["ERROR: deadlock detected"])).chain = 1 :=
  ⟨message_in_chain (c := .connectionOver "failed to connect" "error connecting to server"
      ["Connection refused"]) (.failure rfl) (by decide) (by decide) (by decide),
    message_in_chain (c := .rejection "INSERT INTO t VALUES (?)" "db error"
      ["ERROR: deadlock detected"]) (.close rfl) (by decide) (by decide +kernel) (by decide)⟩

/-- A batch that the database rejects, and nothing below its own error. -/
def rejectedBatch : Failure :=
  .writing (.execution 2 (.rejected "INSERT INTO t VALUES (?)" "deadlock detected" []))

/-- The text of the cause stands in the error above it and in the cause, and nowhere else. -/
theorem rejection_repeats_message :
    rejectedBatch.chain = ["execution of a batch of 2 records failed",
        "query error: deadlock detected", "deadlock detected"] ∧
      mentions "deadlock detected" ["execution of a batch of 2 records failed", "query error: ",
        "INSERT INTO t VALUES (?)"] = 0 ∧
      mentions "deadlock detected" rejectedBatch.chain = 2 :=
  ⟨by decide +kernel, by decide, by decide +kernel⟩

/-! ### Faults of servers -/

/-- What the client library says of a rejected statement is shown once more than the library says
it. -/
theorem mentions_rejected {m sql text : String} {chain : List String} {f : Fault}
    (h : Wraps (f.rejected sql) text chain) (htext : ¬ Mentions m text)
    (hm : Mentions m f.text) : mentions m chain = mentions m f.chain + 1 := by
  let c := Construction.rejection sql f.text f.causes
  have hrepeats : c.Repeats m := hm
  have hchain := Wraps.mentions_chain (c := c) h htext fun _ => hm
  rwa [if_pos hrepeats] at hchain

/-- Of a connection that could not be made, it is shown as often. -/
theorem mentions_unconnected {m text : String} {chain : List String} {f : Fault}
    (h : Wraps f.unconnected text chain) (htext : ¬ Mentions m text)
    (hm : ¬ Mentions m f.unconnected.text) : mentions m chain = mentions m f.chain := by
  rw [h.chain_eq, mentions_cons, if_neg htext, Error.chain, mentions_cons, if_neg hm]
  rfl

end BatchInsert.Proofs
