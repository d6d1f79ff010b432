import QueryDesigner.Query.Encode
import QueryDesigner.Proofs.Query.Selections
import QueryDesigner.Proofs.Validation.Decoder

/-!
# A saved query is read back as it was

* `Operator.decode_text`, … — a word that is written out passes the clean-up of typed words
  unchanged;
* `Join.decode_fields`, `Condition.decode_fields`, … — the parts of a query;
* `Query.decode_encode` — a query, provided that its selections are a dictionary.
-/

namespace QueryDesigner

open Validation

/-! ## Words -/

theorem JoinType.decode_text (t : JoinType) :
    JoinType.decode (Decoder.keyword (.text t.text)) = .ok t := by
  cases t <;> rfl

theorem Connector.decode_text (c : Connector) :
    Connector.decode (Decoder.keyword (.text c.text)) = .ok c := by
  cases c <;> rfl

theorem Direction.decode_text (d : Direction) :
    Direction.decode (Decoder.keyword (.text d.text)) = .ok d := by
  cases d <;> rfl

theorem Operator.decode_text (o : Operator) :
    Operator.decode (Decoder.keyword (.text o.text)) = .ok o := by
  cases o <;> rfl

/-! ## Parts -/

theorem TableRef.decode_fields (t : TableRef) : TableRef.decode (.object t.fields) = .ok t := by
  rcases t with ⟨name, _ | a, ordinal⟩ <;> rfl

theorem Join.decode_fields (j : Join) : Join.decode (.object j.fields) = .ok j := by
  simp [Join.decode, Decoder.record, Join.fields, defaulted, required, List.lookup, Decoder.text,
    JoinType.decode_text, Except.map]

theorem Condition.decode_fields (c : Condition) : Condition.decode (.object c.fields) = .ok c := by
  simp [Condition.decode, Decoder.record, Condition.fields, defaulted, List.lookup, Decoder.text,
    Condition.decodeValue, Operator.decode_text, Connector.decode_text, Except.map]

theorem Order.decode_fields (o : Order) : Order.decode (.object o.fields) = .ok o := by
  simp [Order.decode, Decoder.record, Order.fields, defaulted, List.lookup, Decoder.text,
    Direction.decode_text, Except.map]

theorem Selection.decode_encode (s : Selection) : Selection.decode s.encode = .ok s := by
  cases s with
  | every =>
      rfl
  | only columns =>
      have hlist := Decoder.list_texts columns
      simp only [Datum.texts] at hlist
      simp [Selection.encode, Selection.decode, Datum.texts, hlist, Except.map]

/-! ## Queries -/

namespace Query

/-- Selections without a repeated key are read back in their order. -/
theorem decode_encode {q : Query} : q.columns.keys.Nodup → Query.decode q.encode = .ok q := by
  intro hkeys
  have htables := Decoder.list_map q.tables TableRef.decode_fields
  have hjoins := Decoder.list_map q.joins Join.decode_fields
  have hconditions := Decoder.list_map q.conditions Condition.decode_fields
  have horder := Decoder.list_map q.orderBy Order.decode_fields
  have hcolumns : (Decoder.dictionary Selection.decode
      (.object (q.columns.entries.map fun e => (e.1, e.2.encode)))).map Selections.ofList =
        .ok q.columns := by
    simp only [Decoder.dictionary, Decoded.collectFields_map q.columns.entries
      Selection.decode_encode, Except.map]
    rw [Selections.ofList_eq hkeys]
  simp [Query.decode, encode, fields, Decoder.record, defaulted, List.lookup, htables, hcolumns,
    hjoins, hconditions, horder, Decoder.list_texts, Decoder.optional_count]
  rfl

end Query

end QueryDesigner
