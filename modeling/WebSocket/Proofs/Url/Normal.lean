import WebSocket.Endpoint
import WebSocket.Proofs.Url.Host
import WebSocket.Proofs.Url.Path

/-!
# Endpoints are in normal form

What an address keeps of a web address is read or escaped part by part
(`Url.Normal`). An endpoint that was read is therefore made of a canonical host that
is not too long, a path in normal form and a query with nothing to escape
(`Endpoint.canonical_of_parse`). All that is proved about endpoints goes through
this form.
-/

namespace WebSocket

def Url.target (path : List Char) (query : Option (List Char)) : List Char :=
  path ++ (query.map ('?' :: ·)).getD []

structure Url.IsTarget (path : List Char) (query : Option (List Char)) : Prop where
  path : Path.IsNormal path
  query : ∀ text ∈ query, ∀ c ∈ text, Percent.inQuery c = false

theorem Url.IsTarget.slash {path : List Char} {query : Option (List Char)}
    (h : IsTarget path query) : ∃ rest, target path query = '/' :: rest := by
  obtain ⟨rest, rfl⟩ := h.path.slash
  exact ⟨_, rfl⟩

/-- What is left of a web address is the host that was read, and a path and a query in
normal form. -/
inductive Url.Normal : Url → Prop
  | web {scheme : List Char} (hosts : Host.parse name = .ok host) (targets : IsTarget path query) :
    Normal (.web scheme host port path query)
  | other {scheme : List Char} : Normal (.other scheme)

def Endpoint.ofParts (host : Host) (port : UInt16) (path : List Char) (query : Option (List Char)) :
    Endpoint where
  host := String.ofList host.text
  port := port
  target := String.ofList (Url.target path query)

/-- An endpoint made of parts in normal form. -/
inductive Endpoint.Canonical : Endpoint → Prop
  | made {host : Host} {port : UInt16} (hosts : host.Canonical)
      (short : host.text.length ≤ maxHostLength) (targets : Url.IsTarget path query) :
    Canonical (ofParts host port path query)

namespace Url

theorem ofTail_normal {scheme : List Char} (hh : Host.parse name = .ok host) :
    Normal (ofTail scheme host port tail) := by
  refine .web hh ⟨Path.normalize_isNormal _, fun text ht c hc => ?_⟩
  split at ht
  · cases ht
    exact Percent.not_inQuery_of_mem_encode hc
  · cases ht

theorem parseWeb_normal {scheme : List Char} (h : parseWeb scheme text = .ok url) :
    Normal url := by
  simp only [parseWeb, bind, Except.bind, pure, Except.pure] at h
  split at h
  · cases h
  split at h
  · cases h
  next hh =>
  split at h
  · cases h
  · cases h
    exact ofTail_normal hh

theorem parseFile_normal (h : parseFile text = .ok url) : Normal url := by
  simp only [parseFile, bind, Except.bind, pure, Except.pure] at h
  repeat' split at h
  all_goals cases h
  all_goals exact .other

theorem parseOther_normal {scheme : List Char} (h : parseOther scheme text = .ok url) :
    Normal url := by
  simp only [parseOther, bind, Except.bind, pure, Except.pure] at h
  repeat' split at h
  all_goals cases h
  all_goals exact .other

theorem parse_normal (h : Url.parse text = .ok url) : Normal url := by
  unfold parse at h
  split at h
  · cases h
  split at h
  · exact parseWeb_normal h
  split at h
  · exact parseFile_normal h
  · exact parseOther_normal h

end Url

namespace Endpoint

variable {host : Host} {port : UInt16} {path : List Char} {query : Option (List Char)}

@[simp] theorem host_ofParts : (ofParts host port path query).host.toList = host.text :=
  String.toList_ofList

@[simp] theorem target_ofParts :
    (ofParts host port path query).target.toList = Url.target path query :=
  String.toList_ofList

theorem canonical_of_ofUrl (hn : url.Normal) (h : ofUrl url = .ok endpoint) :
    endpoint.Canonical := by
  unfold ofUrl at h
  split at h
  · next host port path query =>
    dsimp only at h
    split at h
    · cases h
    next hl =>
    cases h
    cases hn with
    | web hosts targets =>
      have hshort : host.text.length ≤ maxHostLength := Nat.le_of_not_lt hl
      have hcoded : host.text.length ≤ DomainName.maxPunycode := Nat.le_trans hshort (by decide)
      exact .made (Host.parse_canonical hosts hcoded) hshort targets
  · cases h

theorem canonical_of_parse (h : parse text = .ok endpoint) : endpoint.Canonical := by
  unfold parse at h
  split at h
  · cases h
  split at h
  · cases h
  next hu => exact canonical_of_ofUrl (Url.parse_normal hu) h

end Endpoint

end WebSocket
