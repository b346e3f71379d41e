/-! Texts as they are stored. -/
namespace StateIntern.Text

/-- The bytes of a text in UTF-8. -/
def bytes (text : String) : List UInt8 := text.toUTF8.data.toList

end StateIntern.Text
