import TypedTree.Text.Grid.Gb2312

/-! # Extended simplified characters

The grid of simplified characters is a part of a larger space of rows of 190. What the grid leaves
free in it is filled with the unified characters that the grid does not have, in their own order,
with symbols, and at last with private characters. All that is left has a place in a second space,
which is chosen by four bytes.
-/

namespace TypedTree.Text.Gbk

/-- The column of a second byte. -/
def column (b : UInt8) : Nat := if b < 0x7F then b.toNat - 0x40 else b.toNat - 0x41

/-- Whether a byte can choose a column. -/
def isColumn (b : UInt8) : Bool := 0x40 ≤ b && b ≤ 0xFE && b ≠ 0x7F

/-- The place of two bytes. -/
def place (lead trail : UInt8) : Nat := (lead.toNat - 0x81) * 190 + column trail

/-- The numbers from `next` on, `count` of them at most, that a rising list does not have. -/
def others (next : Nat) : Nat → List Nat → List Nat
  | 0, _ => []
  | count + 1, [] => next :: others (next + 1) count []
  | count + 1, n :: rest =>
    if n = next then others (next + 1) count rest else next :: others (next + 1) count (n :: rest)

/-- The unified characters that the grid does not have. -/
def unlisted : List Nat :=
  let first := 0x4E00
  let listed := Grid.gb2312.points.filter (first ≤ ·)
  others first 20902 ((listed.filter (· < 0xE000)).mergeSort)

/-- The characters after the unified ones. -/
def compatible : String := "郎凉秊裏隣兀嗀﨎﨏﨑﨓﨔礼﨟蘒﨡﨣﨤﨧﨨﨩"

/-- Symbols, by the place of the first of them. -/
def symbols : List (Nat × String) :=
  [(6366, "ⅰⅱⅲⅳⅴⅵⅶⅷⅸⅹ"),
   (7189, "︵︶︹︺︿﹀︽︾﹁﹂﹃﹄"),
   (7203, "︻︼︷︸︱"),
   (7209, "︳︴"),
   (7410, "ˊˋ˙–―‥‵℅℉↖↗↘↙∕∟∣≒≦≧⊿═║╒╓╔╕╖╗╘╙╚╛╜╝╞╟╠╡╢╣╤╥╦╧╨╩╪╫╬╭╮╯╰╱╲╳▁▂▃▄▅▆▇█▉▊▋▌▍▎▏▓▔▕▼▽◢◣◤◥☉⊕〒〝〞"),
   (7532, "ɑ"),
   (7534, "ńň"),
   (7537, "ɡ"),
   (7600, "〡〢〣〤〥〦〧〨〩㊣㎎㎏㎜㎝㎞㎡㏄㏎㏑㏒㏕︰￢￤"),
   (7625, "℡㈱"),
   (7628, "‐"),
   (7632, "ー゛゜ヽヾ〆ゝゞ﹉﹊﹋﹌﹍﹎﹏﹐﹑﹒﹔﹕﹖﹗﹙﹚﹛﹜﹝﹞﹟﹠﹡﹢﹣﹤﹥﹦﹨﹩﹪﹫"),
   (7685, "〇")]

/-- The symbol in a place. -/
def symbol? (place : Nat) : Option Nat :=
  symbols.findSome? fun (first, row) =>
    if first ≤ place then row.toList[place - first]?.map Char.toNat else none

/-- The characters that fill the places left of the grid: first in the rows above it, then beside
it. -/
def filled? (lead trail : UInt8) : Option Nat :=
  if lead ≤ 0xA0 then unlisted[place lead trail]?
  else if 0xAA ≤ lead && trail ≤ 0xA0 then
    let i := 6080 + (lead.toNat - 0xAA) * 96 + column trail
    if i < unlisted.length then unlisted[i]?
    else compatible.toList[i - unlisted.length]?.map Char.toNat
  else none

/-- The character of two bytes. -/
def point? (lead trail : UInt8) : Option Nat :=
  if !isColumn trail || lead < 0x81 || lead = 0xFF then none
  else if lead = 0xA1 && trail = 0xAA then some 0x2014
  else if lead = 0xA1 && trail = 0xA4 then some 0x00B7
  else
    let listed? := if 0xA1 ≤ lead && 0xA1 ≤ trail
      then Grid.gb2312.point? (lead.toNat - 0xA1) (trail.toNat - 0xA1) else none
    (listed?.or (filled? lead trail)).or (symbol? (place lead trail))

/-- Private characters: the first place, the first character and their number. -/
def userRuns : List (Nat × Nat × Nat) :=
  [(6080, 58566, 96), (6270, 58662, 96), (6376, 59238, 6), (6432, 8364, 1), (6433, 59245, 1),
   (6444, 59246, 2), (6458, 59248, 2), (6460, 58758, 96), (6650, 58854, 96), (6829, 59250, 11),
   (6840, 58950, 96), (7022, 59261, 8), (7030, 59046, 96), (7150, 59269, 8), (7182, 59277, 7),
   (7201, 59284, 2), (7208, 59286, 1), (7211, 59287, 9), (7220, 59142, 96), (7349, 59296, 15),
   (7397, 59311, 13), (7495, 59324, 11), (7533, 59335, 1), (7536, 505, 1), (7538, 59337, 4),
   (7579, 59341, 21), (7624, 59362, 1), (7627, 59363, 1), (7629, 59364, 3), (7672, 12350, 1),
   (7673, 12272, 12), (7686, 59380, 13), (7775, 59393, 15), (7886, 57344, 94), (8076, 57438, 94),
   (8266, 57532, 94), (8456, 57626, 94), (8646, 57720, 94), (8836, 57814, 94), (16525, 59408, 5),
   (22706, 57908, 94), (22896, 58002, 94), (23086, 58096, 94), (23276, 58190, 94),
   (23466, 58284, 94), (23656, 58378, 94), (23766, 11905, 1), (23767, 59414, 3),
   (23770, 11908, 1), (23771, 13427, 1), (23772, 13383, 1), (23773, 11912, 1), (23774, 11915, 1),
   (23775, 59422, 1), (23776, 13726, 1), (23777, 13850, 1), (23778, 13838, 1), (23779, 11916, 1),
   (23780, 11927, 1), (23781, 14702, 1), (23782, 14616, 1), (23783, 59430, 1), (23784, 14799, 1),
   (23785, 14815, 1), (23786, 14963, 1), (23787, 14800, 1), (23788, 59435, 2), (23790, 15182, 1),
   (23791, 15470, 1), (23792, 15584, 1), (23793, 11943, 1), (23794, 59441, 2), (23796, 11946, 1),
   (23797, 16470, 1), (23798, 16735, 1), (23799, 11950, 1), (23800, 17207, 1), (23801, 11955, 1),
   (23802, 11958, 2), (23804, 59451, 1), (23805, 17329, 1), (23806, 17324, 1), (23807, 11963, 1),
   (23808, 17373, 1), (23809, 17622, 1), (23810, 18017, 1), (23811, 17996, 1), (23812, 59459, 1),
   (23813, 18211, 1), (23814, 18217, 1), (23815, 18300, 1), (23816, 18317, 1), (23817, 11978, 1),
   (23818, 18759, 1), (23819, 18810, 1), (23820, 18813, 1), (23821, 18818, 2), (23823, 18821, 2),
   (23825, 18847, 1), (23826, 18843, 1), (23827, 18871, 1), (23828, 18870, 1), (23829, 59476, 2),
   (23831, 19619, 1), (23832, 19615, 3), (23835, 19575, 1), (23836, 19618, 1), (23837, 19731, 7),
   (23844, 19886, 1), (23845, 59492, 1), (23846, 58472, 94)]

/-- The private character of two bytes. -/
def userDefined? (lead trail : UInt8) : Option Nat :=
  if !isColumn trail || lead < 0x81 || lead = 0xFF then none
  else
    let place := place lead trail
    userRuns.findSome? fun (first, point, count) =>
      if first ≤ place && place < first + count then some (point + (place - first)) else none

/-- How the characters follow each other in the space of four bytes: places at which a run begins,
with the first character of each. -/
def longRuns : List (Nat × Nat) :=
  [(0, 128), (36, 165), (38, 169), (45, 178), (50, 184), (81, 216), (89, 226), (95, 235),
   (96, 238), (100, 244), (103, 248), (104, 251), (105, 253), (109, 258), (126, 276), (133, 284),
   (148, 300), (172, 325), (175, 329), (179, 334), (208, 364), (306, 463), (307, 465),
   (308, 467), (309, 469), (310, 471), (311, 473), (312, 475), (313, 477), (341, 506),
   (428, 594), (443, 610), (544, 712), (545, 716), (558, 730), (741, 930), (742, 938),
   (749, 962), (750, 970), (805, 1026), (819, 1104), (820, 1106), (7922, 8209), (7924, 8215),
   (7925, 8218), (7927, 8222), (7934, 8231), (7943, 8241), (7944, 8244), (7945, 8246),
   (7950, 8252), (8062, 8365), (8148, 8452), (8149, 8454), (8152, 8458), (8164, 8471),
   (8174, 8482), (8236, 8556), (8240, 8570), (8262, 8596), (8264, 8602), (8374, 8713),
   (8380, 8720), (8381, 8722), (8384, 8726), (8388, 8731), (8390, 8737), (8392, 8740),
   (8393, 8742), (8394, 8748), (8396, 8751), (8401, 8760), (8406, 8766), (8416, 8777),
   (8419, 8781), (8424, 8787), (8437, 8802), (8439, 8808), (8445, 8816), (8482, 8854),
   (8485, 8858), (8496, 8870), (8521, 8896), (8603, 8979), (8936, 9322), (8946, 9372),
   (9046, 9548), (9050, 9588), (9063, 9616), (9066, 9622), (9076, 9634), (9092, 9652),
   (9100, 9662), (9108, 9672), (9111, 9676), (9113, 9680), (9131, 9702), (9162, 9735),
   (9164, 9738), (9218, 9793), (9219, 9795), (11329, 11906), (11331, 11909), (11334, 11913),
   (11336, 11917), (11346, 11928), (11361, 11944), (11363, 11947), (11366, 11951),
   (11370, 11956), (11372, 11960), (11375, 11964), (11389, 11979), (11682, 12284),
   (11686, 12292), (11687, 12312), (11692, 12319), (11694, 12330), (11714, 12351),
   (11716, 12436), (11723, 12447), (11725, 12535), (11730, 12543), (11736, 12586),
   (11982, 12842), (11989, 12850), (12102, 12964), (12336, 13200), (12348, 13215),
   (12350, 13218), (12384, 13253), (12393, 13263), (12395, 13267), (12397, 13270),
   (12510, 13384), (12553, 13428), (12851, 13727), (12962, 13839), (12973, 13851),
   (13738, 14617), (13823, 14703), (13919, 14801), (13933, 14816), (14080, 14964),
   (14298, 15183), (14585, 15471), (14698, 15585), (15583, 16471), (15847, 16736),
   (16318, 17208), (16434, 17325), (16438, 17330), (16481, 17374), (16729, 17623),
   (17102, 17997), (17122, 18018), (17315, 18212), (17320, 18218), (17402, 18301),
   (17418, 18318), (17859, 18760), (17909, 18811), (17911, 18814), (17915, 18820),
   (17916, 18823), (17936, 18844), (17939, 18848), (17961, 18872), (18664, 19576),
   (18703, 19620), (18814, 19738), (18962, 19887), (19043, 40870), (33469, 59244),
   (33470, 59336), (33471, 59367), (33484, 59413), (33485, 59417), (33490, 59423),
   (33497, 59431), (33501, 59437), (33505, 59443), (33513, 59452), (33520, 59460),
   (33536, 59478), (33550, 59493), (37845, 63789), (37921, 63866), (37948, 63894),
   (38029, 63976), (38038, 63986), (38064, 64016), (38065, 64018), (38066, 64021),
   (38069, 64025), (38075, 64034), (38076, 64037), (38078, 64042), (39108, 65074),
   (39109, 65093), (39113, 65107), (39114, 65112), (39115, 65127), (39116, 65132),
   (39265, 65375), (39394, 65510)]

/-- The character in a place of the space of four bytes. -/
def longPoint? (place : Nat) : Option Nat :=
  if place < 39420 then
    ((longRuns.takeWhile fun r => r.1 ≤ place).getLast?).map fun (first, point) =>
      point + (place - first)
  else none

end TypedTree.Text.Gbk
