import FeatureFlags.Text.Symbols

/-!
# The symbols of a text

The bytes of a text hold the characters of the text and nothing else.
-/
namespace FeatureFlags.Text

theorem utf8DecodeChar?_encoded (front rest : List Char) (c : Char) :
    ((front ++ c :: rest).utf8Encode).utf8DecodeChar? front.utf8Encode.size = some c := by
  rw [ByteArray.utf8DecodeChar?_eq_utf8DecodeChar?_extract, List.utf8Encode_append,
    ByteArray.extract_append_eq_right rfl ByteArray.size_append,
    List.utf8DecodeChar?_utf8Encode_cons]

theorem size_encoded_snoc (front : List Char) (c : Char) :
    (front ++ [c]).utf8Encode.size = front.utf8Encode.size + c.utf8Size := by
  rw [List.utf8Encode_append, ByteArray.size_append, List.utf8Encode_singleton,
    List.size_toByteArray, String.length_utf8EncodeChar]

/-- Behind some characters the others are left. -/
theorem symbolsFrom_encoded (front rest : List Char) :
    symbolsFrom (front ++ rest).utf8Encode front.utf8Encode.size = rest.map some := by
  induction rest generalizing front with
  | nil => rw [List.append_nil, symbolsFrom, if_neg (Nat.lt_irrefl _), List.map_nil]
  | cons c rest ih =>
    have hrest := ih (front ++ [c])
    rw [List.append_assoc, List.singleton_append, size_encoded_snoc] at hrest
    have hlt : front.utf8Encode.size < (front ++ c :: rest).utf8Encode.size := by
      have hsplit : (front ++ [c] ++ rest).utf8Encode =
          (front ++ [c]).utf8Encode ++ rest.utf8Encode := List.utf8Encode_append
      have hsize := congrArg ByteArray.size hsplit
      rw [List.append_assoc, List.singleton_append, ByteArray.size_append, size_encoded_snoc]
        at hsize
      have hpos := c.utf8Size_pos
      omega
    rw [symbolsFrom, if_pos hlt, utf8DecodeChar?_encoded]
    dsimp only
    rw [hrest, List.map_cons]

/-- The bytes of a text are read as the text. -/
theorem symbols_toUTF8 (s : String) : symbols s.toUTF8 = symbolsOfText s := by
  have hsymbols := symbolsFrom_encoded [] s.toList
  rw [List.nil_append, String.utf8Encode_toList, List.utf8Encode_nil] at hsymbols
  rw [String.toUTF8_eq_toByteArray]
  exact hsymbols

end FeatureFlags.Text
