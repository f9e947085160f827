import TypedTree.Text.CodePage.Basic

/-! # Mainframe pages

On these pages no character keeps its place. The control characters come first and are the same
on all of them.
-/

namespace TypedTree.Text.CodePage

/-- The control characters, which fill the first quarter. -/
def controls : List String :=
  ["\x00\x01\x02\x03\x9c\x09\x86\x7f\x97\x8d\x8e\x0b\x0c\x0d\x0e\x0f\x10\x11\x12\x13\x9d\x85\x08\x87\x18\x19\x92\x8f\x1c\x1d\x1e\x1f",
   "\x80\x81\x82\x83\x84\x0a\x17\x1b\x88\x89\x8a\x8b\x8c\x05\x06\x07\x90\x91\x16\x93\x94\x95\x96\x04\x98\x99\x9a\x9b\x14\x15\x9e\x1a"]

def cp037 : CodePage :=
  ⟨"cp037", 0, controls ++
    ["\x20\xa0âäàáãåçñ¢.<(+|&éêëèíîïìß!$*);¬",
     "\x2d\x2fÂÄÀÁÃÅÇÑ¦,%_>?øÉÊËÈÍÎÏÌ\x60:#@\x27=\x22",
     "Øabcdefghi«»ðýþ±°jklmnopqrªºæ¸Æ¤",
     "µ~stuvwxyz¡¿ÐÝÞ®^£¥·©§¶¼½¾[]¯¨´×",
     "\x7bABCDEFGHI\xadôöòóõ\x7dJKLMNOPQR¹ûüùúÿ",
     "\\÷STUVWXYZ²ÔÖÒÓÕ0123456789³ÛÜÙÚ\x9f"]⟩

def cp273 : CodePage :=
  ⟨"cp273", 0, controls ++
    ["\x20\xa0â\x7bàáãåçñÄ.<(+!&éêëèíîïì~Ü$*);^",
     "\x2d\x2fÂ[ÀÁÃÅÇÑö,%_>?øÉÊËÈÍÎÏÌ\x60:#§\x27=\x22",
     "Øabcdefghi«»ðýþ±°jklmnopqrªºæ¸Æ¤",
     "µßstuvwxyz¡¿ÐÝÞ®¢£¥·©@¶¼½¾¬|‾¨´×",
     "äABCDEFGHI\xadô¦òóõüJKLMNOPQR¹û\x7dùúÿ",
     "Ö÷STUVWXYZ²Ô\\ÒÓÕ0123456789³Û]ÙÚ\x9f"]⟩

def cp424 : CodePage :=
  ⟨"cp424", 0, controls ++
    ["\x20אבגדהוזחט¢.<(+|&יךכלםמןנס!$*);¬",
     "\x2d\x2fעףפץצקרש¦,%_>?�ת��\xa0���‗\x60:#@\x27=\x22",
     "�abcdefghi«»���±°jklmnopqr���¸�¤",
     "µ~stuvwxyz�����®^£¥·©§¶¼½¾[]¯¨´×",
     "\x7bABCDEFGHI\xad�����\x7dJKLMNOPQR¹�����",
     "\\÷STUVWXYZ²�����0123456789³����\x9f"]⟩

def cp500 : CodePage :=
  ⟨"cp500", 0, controls ++
    ["\x20\xa0âäàáãåçñ[.<(+!&éêëèíîïìß]$*);^",
     "\x2d\x2fÂÄÀÁÃÅÇÑ¦,%_>?øÉÊËÈÍÎÏÌ\x60:#@\x27=\x22",
     "Øabcdefghi«»ðýþ±°jklmnopqrªºæ¸Æ¤",
     "µ~stuvwxyz¡¿ÐÝÞ®¢£¥·©§¶¼½¾¬|¯¨´×",
     "\x7bABCDEFGHI\xadôöòóõ\x7dJKLMNOPQR¹ûüùúÿ",
     "\\÷STUVWXYZ²ÔÖÒÓÕ0123456789³ÛÜÙÚ\x9f"]⟩

def cp875 : CodePage :=
  ⟨"cp875", 0, controls ++
    ["\x20ΑΒΓΔΕΖΗΘΙ[.<(+!&ΚΛΜΝΞΟΠΡΣ]$*);^",
     "\x2d\x2fΤΥΦΧΨΩΪΫ|,%_>?¨ΆΈΉ\xa0ΊΌΎΏ\x60:#@\x27=\x22",
     "΅abcdefghiαβγδεζ°jklmnopqrηθικλμ",
     "´~stuvwxyzνξοπρσ£άέήϊίόύϋώςτυφχψ",
     "\x7bABCDEFGHI\xadωΐΰ‘―\x7dJKLMNOPQR±½\x1a·’¦",
     "\\\x1aSTUVWXYZ²§\x1a\x1a«¬0123456789³©\x1a\x1a»\x9f"]⟩

def cp1026 : CodePage :=
  ⟨"cp1026", 0, controls ++
    ["\x20\xa0âäàáãå\x7bñÇ.<(+!&éêëèíîïìßĞİ*);^",
     "\x2d\x2fÂÄÀÁÃÅ[Ñş,%_>?øÉÊËÈÍÎÏÌı:ÖŞ\x27=Ü",
     "Øabcdefghi«»\x7d\x60¦±°jklmnopqrªºæ¸Æ¤",
     "µöstuvwxyz¡¿]$@®¢£¥·©§¶¼½¾¬|¯¨´×",
     "çABCDEFGHI\xadô~òóõğJKLMNOPQR¹û\\ùúÿ",
     "ü÷STUVWXYZ²Ô#ÒÓÕ0123456789³Û\x22ÙÚ\x9f"]⟩

def cp1140 : CodePage :=
  ⟨"cp1140", 0, controls ++
    ["\x20\xa0âäàáãåçñ¢.<(+|&éêëèíîïìß!$*);¬",
     "\x2d\x2fÂÄÀÁÃÅÇÑ¦,%_>?øÉÊËÈÍÎÏÌ\x60:#@\x27=\x22",
     "Øabcdefghi«»ðýþ±°jklmnopqrªºæ¸Æ€",
     "µ~stuvwxyz¡¿ÐÝÞ®^£¥·©§¶¼½¾[]¯¨´×",
     "\x7bABCDEFGHI\xadôöòóõ\x7dJKLMNOPQR¹ûüùúÿ",
     "\\÷STUVWXYZ²ÔÖÒÓÕ0123456789³ÛÜÙÚ\x9f"]⟩

/-- The pages of this kind. -/
def ebcdicPages : List CodePage :=
  [cp037, cp273, cp424, cp500, cp875, cp1026, cp1140]

end TypedTree.Text.CodePage
