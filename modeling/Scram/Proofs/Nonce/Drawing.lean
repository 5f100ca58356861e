import Mathlib.Data.Nat.Nth
import Scram.Proofs.Client.Steps
import Scram.Proofs.Nonce.Words

/-!
# Drawing nonces

A nonce is drawn by taking words from a source, passing over those that pick no octet, until it is
long enough. Whether that ends is a matter of the source: from one that hands out words which pick
nothing for ever, nothing could be drawn. A source here hands out a list of words and then zeros, and
a zero picks an octet, so a drawing always ends (`exists_drawing`). `Drawing` is the drawing itself,
one rule for each thing that can happen at a word; `draw` is what it comes to.

`DrawnFrom` says what is wanted of a drawn text: no word is used twice or left out, except those that
pick nothing, and the drawing stops where the text is complete. Both ends draw so, and what they draw
can stand in every message that has a nonce (`nonces_drawn_faithfully`). That no character is
favoured is said of the single word in `Scram.Proofs.Nonce.Words`.
-/

namespace Scram

namespace Nonce

variable {octet? : UInt32 → Option UInt8} {source : Nat → UInt32}

/-! ## Drawing word by word -/

/-- What a source of these words hands out at a place. -/
def wordAt (words : List UInt32) (place : Nat) : UInt32 := words.getD place 0

/-- A drawing: it takes the words of a source one after another, from one place on, makes the octets
of them, and stops before the place `next` as soon as the octets are complete. -/
inductive Drawing (octet? : UInt32 → Option UInt8) (source : Nat → UInt32) :
    (place : Nat) → Bytes → (next : Nat) → Prop
  | complete {place : Nat} : Drawing octet? source place [] place
  | taken {place next : Nat} {o : UInt8} {rest : Bytes} (picked : octet? (source place) = some o)
      (more : Drawing octet? source (place + 1) rest next) :
      Drawing octet? source place (o :: rest) next
  | passedOver {place next : Nat} {o : UInt8} {rest : Bytes} (unpicked : octet? (source place) = none)
      (more : Drawing octet? source (place + 1) (o :: rest) next) :
      Drawing octet? source place (o :: rest) next

/-- Whether the word at a place picks an octet. -/
abbrev Picks (octet? : UInt32 → Option UInt8) (source : Nat → UInt32) (place : Nat) : Prop :=
  (octet? (source place)).isSome

/-- Where the source is at its zeros every word is taken. -/
theorem drawing_replicate {z : UInt8} (zero : octet? 0 = some z) (count : Nat) {place : Nat}
    (zeros : ∀ k, source (place + k) = 0) :
    Drawing octet? source place (List.replicate count z) (place + count) := by
  induction count generalizing place with
  | zero => exact .complete
  | succ count ih =>
    have first : octet? (source place) = some z := by
      rw [← Nat.add_zero place, zeros, zero]
    have shifted : ∀ k, source (place + 1 + k) = 0 := by
      intro k
      rw [Nat.add_assoc]
      exact zeros (1 + k)
    have more := ih shifted
    rw [Nat.add_assoc, Nat.add_comm 1] at more
    exact .taken first more

/-- What `draw` answers is drawn from the source, and takes no more words than the source has before
its zeros, and one for each octet. -/
theorem exists_drawing (zero : (octet? 0).isSome) (count : Nat) (words : List UInt32) {place : Nat}
    (hands : ∀ k, source (place + k) = wordAt words k) :
    ∃ next ≤ place + words.length + count,
      Drawing octet? source place (draw octet? count words) next := by
  obtain ⟨z, hz⟩ := Option.isSome_iff_exists.mp zero
  -- on the words before the zeros; the place is general because it moves on with every word
  induction words generalizing count place with
  | nil =>
    refine ⟨place + count, Nat.le_refl _, ?_⟩
    have octets : draw octet? count [] = List.replicate count z := by
      cases count with
      | zero => rfl
      | succ count => rw [draw, hz, Option.getD_some]
    rw [octets]
    exact drawing_replicate hz count hands
  | cons word words ih =>
    have first : source place = word := hands 0
    have shifted : ∀ k, source (place + 1 + k) = wordAt words k := by
      intro k
      rw [Nat.add_assoc, Nat.add_comm 1]
      exact hands (k + 1)
    cases count with
    | zero =>
      rw [draw]
      exact ⟨place, by omega, .complete⟩
    | succ count =>
      rw [draw]
      split
      · next o picked =>
        obtain ⟨next, bound, more⟩ := ih count shifted
        exact ⟨next, by rw [List.length_cons]; omega, .taken (first ▸ picked) more⟩
      · next unpicked =>
        obtain ⟨next, bound, more⟩ := ih (count + 1) shifted
        have nonempty : draw octet? (count + 1) words ≠ [] := draw_ne_nil (Nat.succ_pos count) words
        obtain ⟨o, rest, octets⟩ := List.exists_cons_of_ne_nil nonempty
        rw [octets] at more ⊢
        exact ⟨next, by rw [List.length_cons]; omega, .passedOver (first ▸ unpicked) more⟩

/-- Each octet of a drawing is picked by the next word that picks one, counted from where the drawing
begins. -/
theorem Drawing.getElem?_eq {place next : Nat} {octets : Bytes}
    (h : Drawing octet? source place octets next) {k : Nat} (inside : k < octets.length) :
    octets[k]? = octet? (source (Nat.nth (Picks octet? source)
      (Nat.count (Picks octet? source) place + k))) := by
  -- a word that is taken counts itself and a word that is passed over does not, so in either case the
  -- rest of the drawing stands at the same number
  induction h generalizing k with
  | complete => contradiction
  | taken picked more ih =>
    have picks : Picks octet? source _ := Option.isSome_of_eq_some picked
    cases k with
    | zero => rw [Nat.add_zero, Nat.nth_count picks, picked, List.getElem?_cons_zero]
    | succ k =>
      rw [List.getElem?_cons_succ, ih (Nat.lt_of_succ_lt_succ inside), Nat.count_succ, if_pos picks,
        Nat.add_assoc, Nat.add_comm 1]
  | passedOver unpicked more ih =>
    have passes : ¬Picks octet? source _ := Option.not_isSome_iff_eq_none.mpr unpicked
    rw [ih inside, Nat.count_succ, if_neg passes, Nat.add_zero]

/-! ## Drawn texts -/

/-- A text of `count` characters that is drawn from a source of these words: the drawing ends, having
taken no more words than there are before the zeros and one for each character, and the characters
are those that the words pick, each by the next word that picks one. -/
structure DrawnFrom (octet? : UInt32 → Option UInt8) (words : List UInt32) (count : Nat)
    (text : String) : Prop where
  length : text.toList.length = count
  drawing : ∃ next ≤ words.length + count, Drawing octet? (wordAt words) 0 (utf8 text) next
  picked : ∀ k < count, text.toList[k]? =
    (octet? (wordAt words (Nat.nth (Picks octet? (wordAt words)) k))).map
      fun o => Char.ofNat o.toNat

/-- What `draw` makes of a list of words is drawn from it, for any way to pick ASCII octets that
picks one at a zero. -/
theorem drawnFrom_draw (zero : (octet? 0).isSome)
    (ascii : ∀ word o, octet? word = some o → o < 128) (words : List UInt32) (count : Nat) :
    DrawnFrom octet? words count (asciiText (draw octet? count words)) := by
  have octets : utf8 (asciiText (draw octet? count words)) = draw octet? count words :=
    utf8_asciiText (draw_ind ascii zero count words)
  have characters : (asciiText (draw octet? count words)).toList =
      (draw octet? count words).map fun o => Char.ofNat o.toNat := by
    rw [asciiText, String.toList_ofList]
  have hands (k : Nat) : wordAt words (0 + k) = wordAt words k := by rw [Nat.zero_add]
  obtain ⟨next, bound, drawing⟩ := exists_drawing zero count words hands
  constructor
  · rw [characters, List.length_map, length_draw]
  · rw [octets]
    exact ⟨next, by omega, drawing⟩
  · intro k inside
    rw [characters, List.getElem?_map, drawing.getElem?_eq (by rwa [length_draw]), Nat.count_zero,
      Nat.zero_add]

theorem drawnFrom_client (words : List UInt32) :
    DrawnFrom clientOctet? words 24 (client words).text :=
  drawnFrom_draw (by decide)
    (fun _ _ picked => lt_of_isNonceOctet (isNonceOctet_of_clientOctet? picked)) words 24

example : (client [3232771083, 4294967295]).text = "~!!!!!!!!!!!!!!!!!!!!!!!" := by
  decide

theorem drawnFrom_server (words : List UInt32) :
    DrawnFrom serverOctet? words 20 (server words).text :=
  drawnFrom_draw (by decide)
    (fun _ _ picked => lt_of_isNonceOctet (isNonceOctet_of_serverOctet? picked)) words 20

theorem IsAlphanumeric.isAlphanum {o : UInt8} (h : IsAlphanumeric o) :
    (Char.ofNat o.toNat).isAlphanum := by
  have table : ∀ n < 123, (65 ≤ n ∧ n ≤ 90 ∨ 97 ≤ n ∧ n ≤ 122 ∨ 48 ≤ n ∧ n ≤ 57) →
      (Char.ofNat n).isAlphanum := by decide
  rw [isAlphanumeric_iff] at h
  exact table o.toNat (by omega) h

/-- A server's nonce has letters and digits only. -/
theorem isAlphanum_of_mem_server {words : List UInt32} {c : Char}
    (mem : c ∈ (server words).text.toList) : c.isAlphanum := by
  have characters : (server words).text.toList =
      (draw serverOctet? 20 words).map fun o => Char.ofNat o.toNat := String.toList_ofList
  rw [characters, List.mem_map] at mem
  obtain ⟨o, drawn, rfl⟩ := mem
  have each : ∀ o ∈ draw serverOctet? 20 words, IsAlphanumeric o :=
    draw_ind (fun _ _ => isAlphanumeric_of_serverOctet?) (by decide) 20 words
  exact (each o drawn).isAlphanum

/-! ## Drawn nonces in messages -/

/-- The two drawn nonces together are a nonce. -/
theorem isNonce_combined (words words' : List UInt32) :
    isNonce (utf8 ((client words).text ++ (server words').text)) := by
  rw [utf8_append]
  exact isNonce_append (client words).isNonce_text (server words').isNonce_text

/-- A server always adds something to the client's nonce. -/
theorem server_ne_empty (words : List UInt32) : (server words).text ≠ "" :=
  ((isNonce_utf8_iff _).mp (server words).isNonce_text).1

/-- **Nonces are drawn faithfully and can stand in every message.** A client's is 24 visible
characters, none of them a comma, and a server's is 20 letters and digits, each picked by the next
word that picks one. A client that has drawn its nonce is never refused for it: its first message is
read with that nonce, or refused for one of the names. The client's nonce with the server's behind it
is read from a server's first message, whatever else is in that, and the client answers it as an
extension of its own; and it is read from every final message that has it. -/
theorem nonces_drawn_faithfully (words words' : List UInt32) :
    let own := (client words).text
    let combined := own ++ (server words').text
    (DrawnFrom clientOctet? words 24 own ∧ ∀ c ∈ own.toList, '!' ≤ c ∧ c ≤ '~' ∧ c ≠ ',') ∧
    (DrawnFrom serverOctet? words' 20 (server words').text ∧
      ∀ c ∈ (server words').text.toList, c.isAlphanum) ∧
    (∀ c : Client, c.nonce = client words →
      (∃ first, ClientFirst.ofOctets (utf8 c.first.2) = .ok first ∧ first.nonce = own) ∨
        ClientFirst.ofOctets (utf8 c.first.2) = .error (.invalid .authzid) ∨
        ClientFirst.ofOctets (utf8 c.first.2) = .error (.invalid .authcid)) ∧
    (∀ salt iterations extensions, (extensions = "" ∨ ∃ more, extensions = "," ++ more) →
      let offer := ServerFirst.text ⟨combined, salt, iterations⟩ ++ extensions
      ServerFirst.parse offer = .ok ⟨combined, salt, iterations⟩ ∧
        ∀ c : Client, c.nonce = client words → ∃ answer, c.first.1.answer offer = .ok answer) ∧
    ∀ binding extensions proof, (binding ≠ [] ∧ comma ∉ binding) →
      (extensions = [] ∨ ∃ more, extensions = comma :: more) → (proof ≠ [] ∧ comma ∉ proof) →
        let withoutProof := utf8 "c=" ++ binding ++ utf8 ",r=" ++ utf8 combined ++ extensions
        ClientFinal.parse (withoutProof ++ utf8 ",p=" ++ proof) =
          .ok ⟨withoutProof, binding, utf8 combined, proof⟩ := by
  intro own combined
  have nonce : isNonce (utf8 combined) := isNonce_combined words words'
  refine ⟨⟨drawnFrom_client words, ((isNonce_utf8_iff own).mp (client words).isNonce_text).2⟩,
    ⟨drawnFrom_server words', fun c => isAlphanum_of_mem_server⟩, ?_, ?_, ?_⟩
  · intro c drawn
    rcases c.ofOctets_first_name_cases with read | refused
    · exact .inl ⟨c.request, read, congrArg Nonce.text drawn⟩
    · exact .inr refused
  · intro salt iterations extensions tail offer
    have parsed : ServerFirst.parse offer = .ok ⟨combined, salt, iterations⟩ :=
      ServerFirst.parse_text_append nonce (tail_toList_iff.mpr tail)
    refine ⟨parsed, fun c drawn => ?_⟩
    apply Client.AwaitingFirst.exists_answer_iff.mpr
    refine ⟨_, (server words').text, parsed, server_ne_empty words', ?_⟩
    exact congrArg (·.text ++ (server words').text) drawn.symm
  · intro binding extensions proof bindingOk tail proofOk withoutProof
    exact ClientFinal.parse_octets
      ⟨bindingOk.1, bindingOk.2, nonce, tail, proofOk.1, proofOk.2⟩

end Nonce

end Scram
