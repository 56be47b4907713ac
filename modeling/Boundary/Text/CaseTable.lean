import Boundary.Text.CharSet

/-!
# Letter case: the tables

The case properties and case mappings of the Unicode character database.

* `uppercase`, `lowercase`, `titlecase`: the characters that have the property.
* `caseIgnorable`: the characters skipped over when the end of a word is looked for.
* `toUpperShifts`, `toLowerShifts`: mappings of one character to one character, as runs of equal
  distance.
* `toUpperSequences`, `toLowerSequences`: mappings of one character to several.
-/

namespace Boundary.Text.CaseTable

/-- A run of characters that are all mapped by the same distance. -/
structure Shift where
  span : Span
  distance : Int
deriving Repr, DecidableEq

/-- Characters with the property Uppercase. -/
def uppercase : CharSet := [
  ⟨65, 90, 1⟩, ⟨192, 214, 1⟩, ⟨216, 222, 1⟩, ⟨256, 310, 2⟩, ⟨313, 327, 2⟩, ⟨330, 376, 2⟩,
  ⟨377, 381, 2⟩, ⟨385, 386, 1⟩, ⟨388, 390, 2⟩, ⟨391, 393, 2⟩, ⟨394, 395, 1⟩, ⟨398, 401, 1⟩,
  ⟨403, 404, 1⟩, ⟨406, 408, 1⟩, ⟨412, 413, 1⟩, ⟨415, 416, 1⟩, ⟨418, 422, 2⟩, ⟨423, 425, 2⟩,
  ⟨428, 430, 2⟩, ⟨431, 433, 2⟩, ⟨434, 435, 1⟩, ⟨437, 439, 2⟩, ⟨440, 440, 1⟩, ⟨444, 444, 1⟩,
  ⟨452, 452, 1⟩, ⟨455, 455, 1⟩, ⟨458, 458, 1⟩, ⟨461, 475, 2⟩, ⟨478, 494, 2⟩, ⟨497, 497, 1⟩,
  ⟨500, 502, 2⟩, ⟨503, 504, 1⟩, ⟨506, 562, 2⟩, ⟨570, 571, 1⟩, ⟨573, 574, 1⟩, ⟨577, 579, 2⟩,
  ⟨580, 582, 1⟩, ⟨584, 590, 2⟩, ⟨880, 882, 2⟩, ⟨886, 886, 1⟩, ⟨895, 895, 1⟩, ⟨902, 904, 2⟩,
  ⟨905, 906, 1⟩, ⟨908, 910, 2⟩, ⟨911, 913, 2⟩, ⟨914, 929, 1⟩, ⟨931, 939, 1⟩, ⟨975, 975, 1⟩,
  ⟨978, 980, 1⟩, ⟨984, 1006, 2⟩, ⟨1012, 1012, 1⟩, ⟨1015, 1017, 2⟩, ⟨1018, 1018, 1⟩,
  ⟨1021, 1071, 1⟩, ⟨1120, 1152, 2⟩, ⟨1162, 1216, 2⟩, ⟨1217, 1229, 2⟩, ⟨1232, 1326, 2⟩,
  ⟨1329, 1366, 1⟩, ⟨4256, 4293, 1⟩, ⟨4295, 4295, 1⟩, ⟨4301, 4301, 1⟩, ⟨5024, 5109, 1⟩,
  ⟨7305, 7305, 1⟩, ⟨7312, 7354, 1⟩, ⟨7357, 7359, 1⟩, ⟨7680, 7828, 2⟩, ⟨7838, 7934, 2⟩,
  ⟨7944, 7951, 1⟩, ⟨7960, 7965, 1⟩, ⟨7976, 7983, 1⟩, ⟨7992, 7999, 1⟩, ⟨8008, 8013, 1⟩,
  ⟨8025, 8031, 2⟩, ⟨8040, 8047, 1⟩, ⟨8120, 8123, 1⟩, ⟨8136, 8139, 1⟩, ⟨8152, 8155, 1⟩,
  ⟨8168, 8172, 1⟩, ⟨8184, 8187, 1⟩, ⟨8450, 8450, 1⟩, ⟨8455, 8455, 1⟩, ⟨8459, 8461, 1⟩,
  ⟨8464, 8466, 1⟩, ⟨8469, 8469, 1⟩, ⟨8473, 8477, 1⟩, ⟨8484, 8490, 2⟩, ⟨8491, 8493, 1⟩,
  ⟨8496, 8499, 1⟩, ⟨8510, 8511, 1⟩, ⟨8517, 8517, 1⟩, ⟨8544, 8559, 1⟩, ⟨8579, 8579, 1⟩,
  ⟨9398, 9423, 1⟩, ⟨11264, 11311, 1⟩, ⟨11360, 11362, 2⟩, ⟨11363, 11364, 1⟩, ⟨11367, 11373, 2⟩,
  ⟨11374, 11376, 1⟩, ⟨11378, 11378, 1⟩, ⟨11381, 11381, 1⟩, ⟨11390, 11392, 1⟩, ⟨11394, 11490, 2⟩,
  ⟨11499, 11501, 2⟩, ⟨11506, 11506, 1⟩, ⟨42560, 42604, 2⟩, ⟨42624, 42650, 2⟩, ⟨42786, 42798, 2⟩,
  ⟨42802, 42862, 2⟩, ⟨42873, 42877, 2⟩, ⟨42878, 42886, 2⟩, ⟨42891, 42893, 2⟩, ⟨42896, 42898, 2⟩,
  ⟨42902, 42922, 2⟩, ⟨42923, 42926, 1⟩, ⟨42928, 42932, 1⟩, ⟨42934, 42948, 2⟩, ⟨42949, 42951, 1⟩,
  ⟨42953, 42955, 2⟩, ⟨42956, 42956, 1⟩, ⟨42960, 42960, 1⟩, ⟨42966, 42972, 2⟩, ⟨42997, 42997, 1⟩,
  ⟨65313, 65338, 1⟩, ⟨66560, 66599, 1⟩, ⟨66736, 66771, 1⟩, ⟨66928, 66938, 1⟩, ⟨66940, 66954, 1⟩,
  ⟨66956, 66962, 1⟩, ⟨66964, 66965, 1⟩, ⟨68736, 68786, 1⟩, ⟨68944, 68965, 1⟩, ⟨71840, 71871, 1⟩,
  ⟨93760, 93791, 1⟩, ⟨119808, 119833, 1⟩, ⟨119860, 119885, 1⟩, ⟨119912, 119937, 1⟩,
  ⟨119964, 119966, 2⟩, ⟨119967, 119967, 1⟩, ⟨119970, 119970, 1⟩, ⟨119973, 119974, 1⟩,
  ⟨119977, 119980, 1⟩, ⟨119982, 119989, 1⟩, ⟨120016, 120041, 1⟩, ⟨120068, 120069, 1⟩,
  ⟨120071, 120074, 1⟩, ⟨120077, 120084, 1⟩, ⟨120086, 120092, 1⟩, ⟨120120, 120121, 1⟩,
  ⟨120123, 120126, 1⟩, ⟨120128, 120132, 1⟩, ⟨120134, 120134, 1⟩, ⟨120138, 120144, 1⟩,
  ⟨120172, 120197, 1⟩, ⟨120224, 120249, 1⟩, ⟨120276, 120301, 1⟩, ⟨120328, 120353, 1⟩,
  ⟨120380, 120405, 1⟩, ⟨120432, 120457, 1⟩, ⟨120488, 120512, 1⟩, ⟨120546, 120570, 1⟩,
  ⟨120604, 120628, 1⟩, ⟨120662, 120686, 1⟩, ⟨120720, 120744, 1⟩, ⟨120778, 120778, 1⟩,
  ⟨125184, 125217, 1⟩, ⟨127280, 127305, 1⟩, ⟨127312, 127337, 1⟩, ⟨127344, 127369, 1⟩]

/-- Characters with the property Lowercase. -/
def lowercase : CharSet := [
  ⟨97, 122, 1⟩, ⟨170, 170, 1⟩, ⟨181, 181, 1⟩, ⟨186, 186, 1⟩, ⟨223, 246, 1⟩, ⟨248, 255, 1⟩,
  ⟨257, 311, 2⟩, ⟨312, 328, 2⟩, ⟨329, 375, 2⟩, ⟨378, 382, 2⟩, ⟨383, 384, 1⟩, ⟨387, 389, 2⟩,
  ⟨392, 392, 1⟩, ⟨396, 397, 1⟩, ⟨402, 402, 1⟩, ⟨405, 405, 1⟩, ⟨409, 411, 1⟩, ⟨414, 414, 1⟩,
  ⟨417, 421, 2⟩, ⟨424, 426, 2⟩, ⟨427, 429, 2⟩, ⟨432, 432, 1⟩, ⟨436, 438, 2⟩, ⟨441, 442, 1⟩,
  ⟨445, 447, 1⟩, ⟨454, 454, 1⟩, ⟨457, 457, 1⟩, ⟨460, 476, 2⟩, ⟨477, 495, 2⟩, ⟨496, 496, 1⟩,
  ⟨499, 501, 2⟩, ⟨505, 563, 2⟩, ⟨564, 569, 1⟩, ⟨572, 572, 1⟩, ⟨575, 576, 1⟩, ⟨578, 578, 1⟩,
  ⟨583, 591, 2⟩, ⟨592, 659, 1⟩, ⟨661, 696, 1⟩, ⟨704, 705, 1⟩, ⟨736, 740, 1⟩, ⟨837, 837, 1⟩,
  ⟨881, 883, 2⟩, ⟨887, 887, 1⟩, ⟨890, 893, 1⟩, ⟨912, 912, 1⟩, ⟨940, 974, 1⟩, ⟨976, 977, 1⟩,
  ⟨981, 983, 1⟩, ⟨985, 1007, 2⟩, ⟨1008, 1011, 1⟩, ⟨1013, 1013, 1⟩, ⟨1016, 1016, 1⟩,
  ⟨1019, 1020, 1⟩, ⟨1072, 1119, 1⟩, ⟨1121, 1153, 2⟩, ⟨1163, 1215, 2⟩, ⟨1218, 1230, 2⟩,
  ⟨1231, 1327, 2⟩, ⟨1376, 1416, 1⟩, ⟨4304, 4346, 1⟩, ⟨4349, 4351, 1⟩, ⟨5112, 5117, 1⟩,
  ⟨7296, 7304, 1⟩, ⟨7306, 7306, 1⟩, ⟨7424, 7615, 1⟩, ⟨7681, 7829, 2⟩, ⟨7830, 7837, 1⟩,
  ⟨7839, 7935, 2⟩, ⟨7936, 7943, 1⟩, ⟨7952, 7957, 1⟩, ⟨7968, 7975, 1⟩, ⟨7984, 7991, 1⟩,
  ⟨8000, 8005, 1⟩, ⟨8016, 8023, 1⟩, ⟨8032, 8039, 1⟩, ⟨8048, 8061, 1⟩, ⟨8064, 8071, 1⟩,
  ⟨8080, 8087, 1⟩, ⟨8096, 8103, 1⟩, ⟨8112, 8116, 1⟩, ⟨8118, 8119, 1⟩, ⟨8126, 8126, 1⟩,
  ⟨8130, 8132, 1⟩, ⟨8134, 8135, 1⟩, ⟨8144, 8147, 1⟩, ⟨8150, 8151, 1⟩, ⟨8160, 8167, 1⟩,
  ⟨8178, 8180, 1⟩, ⟨8182, 8183, 1⟩, ⟨8305, 8305, 1⟩, ⟨8319, 8319, 1⟩, ⟨8336, 8348, 1⟩,
  ⟨8458, 8458, 1⟩, ⟨8462, 8463, 1⟩, ⟨8467, 8467, 1⟩, ⟨8495, 8495, 1⟩, ⟨8500, 8500, 1⟩,
  ⟨8505, 8505, 1⟩, ⟨8508, 8509, 1⟩, ⟨8518, 8521, 1⟩, ⟨8526, 8526, 1⟩, ⟨8560, 8575, 1⟩,
  ⟨8580, 8580, 1⟩, ⟨9424, 9449, 1⟩, ⟨11312, 11359, 1⟩, ⟨11361, 11361, 1⟩, ⟨11365, 11366, 1⟩,
  ⟨11368, 11372, 2⟩, ⟨11377, 11379, 2⟩, ⟨11380, 11382, 2⟩, ⟨11383, 11389, 1⟩, ⟨11393, 11491, 2⟩,
  ⟨11492, 11492, 1⟩, ⟨11500, 11502, 2⟩, ⟨11507, 11507, 1⟩, ⟨11520, 11557, 1⟩, ⟨11559, 11559, 1⟩,
  ⟨11565, 11565, 1⟩, ⟨42561, 42605, 2⟩, ⟨42625, 42651, 2⟩, ⟨42652, 42653, 1⟩, ⟨42787, 42799, 2⟩,
  ⟨42800, 42801, 1⟩, ⟨42803, 42863, 2⟩, ⟨42864, 42872, 1⟩, ⟨42874, 42876, 2⟩, ⟨42879, 42887, 2⟩,
  ⟨42892, 42894, 2⟩, ⟨42897, 42899, 2⟩, ⟨42900, 42901, 1⟩, ⟨42903, 42921, 2⟩, ⟨42927, 42927, 1⟩,
  ⟨42933, 42947, 2⟩, ⟨42952, 42954, 2⟩, ⟨42957, 42957, 1⟩, ⟨42961, 42971, 2⟩, ⟨42998, 43000, 2⟩,
  ⟨43001, 43002, 1⟩, ⟨43824, 43866, 1⟩, ⟨43868, 43880, 1⟩, ⟨43888, 43967, 1⟩, ⟨64256, 64262, 1⟩,
  ⟨64275, 64279, 1⟩, ⟨65345, 65370, 1⟩, ⟨66600, 66639, 1⟩, ⟨66776, 66811, 1⟩, ⟨66967, 66977, 1⟩,
  ⟨66979, 66993, 1⟩, ⟨66995, 67001, 1⟩, ⟨67003, 67004, 1⟩, ⟨67456, 67456, 1⟩, ⟨67459, 67461, 1⟩,
  ⟨67463, 67504, 1⟩, ⟨67506, 67514, 1⟩, ⟨68800, 68850, 1⟩, ⟨68976, 68997, 1⟩, ⟨71872, 71903, 1⟩,
  ⟨93792, 93823, 1⟩, ⟨119834, 119859, 1⟩, ⟨119886, 119892, 1⟩, ⟨119894, 119911, 1⟩,
  ⟨119938, 119963, 1⟩, ⟨119990, 119993, 1⟩, ⟨119995, 119997, 2⟩, ⟨119998, 120003, 1⟩,
  ⟨120005, 120015, 1⟩, ⟨120042, 120067, 1⟩, ⟨120094, 120119, 1⟩, ⟨120146, 120171, 1⟩,
  ⟨120198, 120223, 1⟩, ⟨120250, 120275, 1⟩, ⟨120302, 120327, 1⟩, ⟨120354, 120379, 1⟩,
  ⟨120406, 120431, 1⟩, ⟨120458, 120485, 1⟩, ⟨120514, 120538, 1⟩, ⟨120540, 120545, 1⟩,
  ⟨120572, 120596, 1⟩, ⟨120598, 120603, 1⟩, ⟨120630, 120654, 1⟩, ⟨120656, 120661, 1⟩,
  ⟨120688, 120712, 1⟩, ⟨120714, 120719, 1⟩, ⟨120746, 120770, 1⟩, ⟨120772, 120777, 1⟩,
  ⟨120779, 120779, 1⟩, ⟨122624, 122633, 1⟩, ⟨122635, 122654, 1⟩, ⟨122661, 122666, 1⟩,
  ⟨122928, 122989, 1⟩, ⟨125218, 125251, 1⟩]

/-- Characters of the general category titlecase letter. -/
def titlecase : CharSet := [
  ⟨453, 453, 1⟩, ⟨456, 456, 1⟩, ⟨459, 459, 1⟩, ⟨498, 498, 1⟩, ⟨8072, 8079, 1⟩, ⟨8088, 8095, 1⟩,
  ⟨8104, 8111, 1⟩, ⟨8124, 8124, 1⟩, ⟨8140, 8140, 1⟩, ⟨8188, 8188, 1⟩]

/-- Characters with the property Case_Ignorable. -/
def caseIgnorable : CharSet := [
  ⟨39, 39, 1⟩, ⟨46, 46, 1⟩, ⟨58, 58, 1⟩, ⟨94, 94, 1⟩, ⟨96, 96, 1⟩, ⟨168, 168, 1⟩, ⟨173, 173, 1⟩,
  ⟨175, 175, 1⟩, ⟨180, 180, 1⟩, ⟨183, 184, 1⟩, ⟨688, 879, 1⟩, ⟨884, 885, 1⟩, ⟨890, 890, 1⟩,
  ⟨900, 901, 1⟩, ⟨903, 903, 1⟩, ⟨1155, 1161, 1⟩, ⟨1369, 1369, 1⟩, ⟨1375, 1375, 1⟩, ⟨1425, 1469, 1⟩,
  ⟨1471, 1471, 1⟩, ⟨1473, 1474, 1⟩, ⟨1476, 1477, 1⟩, ⟨1479, 1479, 1⟩, ⟨1524, 1524, 1⟩,
  ⟨1536, 1541, 1⟩, ⟨1552, 1562, 1⟩, ⟨1564, 1564, 1⟩, ⟨1600, 1600, 1⟩, ⟨1611, 1631, 1⟩,
  ⟨1648, 1648, 1⟩, ⟨1750, 1757, 1⟩, ⟨1759, 1768, 1⟩, ⟨1770, 1773, 1⟩, ⟨1807, 1807, 1⟩,
  ⟨1809, 1809, 1⟩, ⟨1840, 1866, 1⟩, ⟨1958, 1968, 1⟩, ⟨2027, 2037, 1⟩, ⟨2042, 2042, 1⟩,
  ⟨2045, 2045, 1⟩, ⟨2070, 2093, 1⟩, ⟨2137, 2139, 1⟩, ⟨2184, 2184, 1⟩, ⟨2192, 2193, 1⟩,
  ⟨2200, 2207, 1⟩, ⟨2249, 2306, 1⟩, ⟨2362, 2362, 1⟩, ⟨2364, 2364, 1⟩, ⟨2369, 2376, 1⟩,
  ⟨2381, 2381, 1⟩, ⟨2385, 2391, 1⟩, ⟨2402, 2403, 1⟩, ⟨2417, 2417, 1⟩, ⟨2433, 2433, 1⟩,
  ⟨2492, 2492, 1⟩, ⟨2497, 2500, 1⟩, ⟨2509, 2509, 1⟩, ⟨2530, 2531, 1⟩, ⟨2558, 2558, 1⟩,
  ⟨2561, 2562, 1⟩, ⟨2620, 2620, 1⟩, ⟨2625, 2626, 1⟩, ⟨2631, 2632, 1⟩, ⟨2635, 2637, 1⟩,
  ⟨2641, 2641, 1⟩, ⟨2672, 2673, 1⟩, ⟨2677, 2677, 1⟩, ⟨2689, 2690, 1⟩, ⟨2748, 2748, 1⟩,
  ⟨2753, 2757, 1⟩, ⟨2759, 2760, 1⟩, ⟨2765, 2765, 1⟩, ⟨2786, 2787, 1⟩, ⟨2810, 2815, 1⟩,
  ⟨2817, 2817, 1⟩, ⟨2876, 2876, 1⟩, ⟨2879, 2879, 1⟩, ⟨2881, 2884, 1⟩, ⟨2893, 2893, 1⟩,
  ⟨2901, 2902, 1⟩, ⟨2914, 2915, 1⟩, ⟨2946, 2946, 1⟩, ⟨3008, 3008, 1⟩, ⟨3021, 3021, 1⟩,
  ⟨3072, 3072, 1⟩, ⟨3076, 3076, 1⟩, ⟨3132, 3132, 1⟩, ⟨3134, 3136, 1⟩, ⟨3142, 3144, 1⟩,
  ⟨3146, 3149, 1⟩, ⟨3157, 3158, 1⟩, ⟨3170, 3171, 1⟩, ⟨3201, 3201, 1⟩, ⟨3260, 3260, 1⟩,
  ⟨3263, 3263, 1⟩, ⟨3270, 3270, 1⟩, ⟨3276, 3277, 1⟩, ⟨3298, 3299, 1⟩, ⟨3328, 3329, 1⟩,
  ⟨3387, 3388, 1⟩, ⟨3393, 3396, 1⟩, ⟨3405, 3405, 1⟩, ⟨3426, 3427, 1⟩, ⟨3457, 3457, 1⟩,
  ⟨3530, 3530, 1⟩, ⟨3538, 3540, 1⟩, ⟨3542, 3542, 1⟩, ⟨3633, 3633, 1⟩, ⟨3636, 3642, 1⟩,
  ⟨3654, 3662, 1⟩, ⟨3761, 3761, 1⟩, ⟨3764, 3772, 1⟩, ⟨3782, 3782, 1⟩, ⟨3784, 3790, 1⟩,
  ⟨3864, 3865, 1⟩, ⟨3893, 3893, 1⟩, ⟨3895, 3895, 1⟩, ⟨3897, 3897, 1⟩, ⟨3953, 3966, 1⟩,
  ⟨3968, 3972, 1⟩, ⟨3974, 3975, 1⟩, ⟨3981, 3991, 1⟩, ⟨3993, 4028, 1⟩, ⟨4038, 4038, 1⟩,
  ⟨4141, 4144, 1⟩, ⟨4146, 4151, 1⟩, ⟨4153, 4154, 1⟩, ⟨4157, 4158, 1⟩, ⟨4184, 4185, 1⟩,
  ⟨4190, 4192, 1⟩, ⟨4209, 4212, 1⟩, ⟨4226, 4226, 1⟩, ⟨4229, 4230, 1⟩, ⟨4237, 4237, 1⟩,
  ⟨4253, 4253, 1⟩, ⟨4348, 4348, 1⟩, ⟨4957, 4959, 1⟩, ⟨5906, 5908, 1⟩, ⟨5938, 5939, 1⟩,
  ⟨5970, 5971, 1⟩, ⟨6002, 6003, 1⟩, ⟨6068, 6069, 1⟩, ⟨6071, 6077, 1⟩, ⟨6086, 6086, 1⟩,
  ⟨6089, 6099, 1⟩, ⟨6103, 6103, 1⟩, ⟨6109, 6109, 1⟩, ⟨6155, 6159, 1⟩, ⟨6211, 6211, 1⟩,
  ⟨6277, 6278, 1⟩, ⟨6313, 6313, 1⟩, ⟨6432, 6434, 1⟩, ⟨6439, 6440, 1⟩, ⟨6450, 6450, 1⟩,
  ⟨6457, 6459, 1⟩, ⟨6679, 6680, 1⟩, ⟨6683, 6683, 1⟩, ⟨6742, 6742, 1⟩, ⟨6744, 6750, 1⟩,
  ⟨6752, 6752, 1⟩, ⟨6754, 6754, 1⟩, ⟨6757, 6764, 1⟩, ⟨6771, 6780, 1⟩, ⟨6783, 6783, 1⟩,
  ⟨6823, 6823, 1⟩, ⟨6832, 6862, 1⟩, ⟨6912, 6915, 1⟩, ⟨6964, 6964, 1⟩, ⟨6966, 6970, 1⟩,
  ⟨6972, 6972, 1⟩, ⟨6978, 6978, 1⟩, ⟨7019, 7027, 1⟩, ⟨7040, 7041, 1⟩, ⟨7074, 7077, 1⟩,
  ⟨7080, 7081, 1⟩, ⟨7083, 7085, 1⟩, ⟨7142, 7142, 1⟩, ⟨7144, 7145, 1⟩, ⟨7149, 7149, 1⟩,
  ⟨7151, 7153, 1⟩, ⟨7212, 7219, 1⟩, ⟨7222, 7223, 1⟩, ⟨7288, 7293, 1⟩, ⟨7376, 7378, 1⟩,
  ⟨7380, 7392, 1⟩, ⟨7394, 7400, 1⟩, ⟨7405, 7405, 1⟩, ⟨7412, 7412, 1⟩, ⟨7416, 7417, 1⟩,
  ⟨7468, 7530, 1⟩, ⟨7544, 7544, 1⟩, ⟨7579, 7679, 1⟩, ⟨8125, 8125, 1⟩, ⟨8127, 8129, 1⟩,
  ⟨8141, 8143, 1⟩, ⟨8157, 8159, 1⟩, ⟨8173, 8175, 1⟩, ⟨8189, 8190, 1⟩, ⟨8203, 8207, 1⟩,
  ⟨8216, 8217, 1⟩, ⟨8228, 8228, 1⟩, ⟨8231, 8231, 1⟩, ⟨8234, 8238, 1⟩, ⟨8288, 8292, 1⟩,
  ⟨8294, 8303, 1⟩, ⟨8305, 8305, 1⟩, ⟨8319, 8319, 1⟩, ⟨8336, 8348, 1⟩, ⟨8400, 8432, 1⟩,
  ⟨11388, 11389, 1⟩, ⟨11503, 11505, 1⟩, ⟨11631, 11631, 1⟩, ⟨11647, 11647, 1⟩, ⟨11744, 11775, 1⟩,
  ⟨11823, 11823, 1⟩, ⟨12293, 12293, 1⟩, ⟨12330, 12333, 1⟩, ⟨12337, 12341, 1⟩, ⟨12347, 12347, 1⟩,
  ⟨12441, 12446, 1⟩, ⟨12540, 12542, 1⟩, ⟨40981, 40981, 1⟩, ⟨42232, 42237, 1⟩, ⟨42508, 42508, 1⟩,
  ⟨42607, 42610, 1⟩, ⟨42612, 42621, 1⟩, ⟨42623, 42623, 1⟩, ⟨42652, 42655, 1⟩, ⟨42736, 42737, 1⟩,
  ⟨42752, 42785, 1⟩, ⟨42864, 42864, 1⟩, ⟨42888, 42890, 1⟩, ⟨42994, 42996, 1⟩, ⟨43000, 43001, 1⟩,
  ⟨43010, 43010, 1⟩, ⟨43014, 43014, 1⟩, ⟨43019, 43019, 1⟩, ⟨43045, 43046, 1⟩, ⟨43052, 43052, 1⟩,
  ⟨43204, 43205, 1⟩, ⟨43232, 43249, 1⟩, ⟨43263, 43263, 1⟩, ⟨43302, 43309, 1⟩, ⟨43335, 43345, 1⟩,
  ⟨43392, 43394, 1⟩, ⟨43443, 43443, 1⟩, ⟨43446, 43449, 1⟩, ⟨43452, 43453, 1⟩, ⟨43471, 43471, 1⟩,
  ⟨43493, 43494, 1⟩, ⟨43561, 43566, 1⟩, ⟨43569, 43570, 1⟩, ⟨43573, 43574, 1⟩, ⟨43587, 43587, 1⟩,
  ⟨43596, 43596, 1⟩, ⟨43632, 43632, 1⟩, ⟨43644, 43644, 1⟩, ⟨43696, 43696, 1⟩, ⟨43698, 43700, 1⟩,
  ⟨43703, 43704, 1⟩, ⟨43710, 43711, 1⟩, ⟨43713, 43713, 1⟩, ⟨43741, 43741, 1⟩, ⟨43756, 43757, 1⟩,
  ⟨43763, 43764, 1⟩, ⟨43766, 43766, 1⟩, ⟨43867, 43871, 1⟩, ⟨43881, 43883, 1⟩, ⟨44005, 44005, 1⟩,
  ⟨44008, 44008, 1⟩, ⟨44013, 44013, 1⟩, ⟨64286, 64286, 1⟩, ⟨64434, 64450, 1⟩, ⟨65024, 65039, 1⟩,
  ⟨65043, 65043, 1⟩, ⟨65056, 65071, 1⟩, ⟨65106, 65106, 1⟩, ⟨65109, 65109, 1⟩, ⟨65279, 65279, 1⟩,
  ⟨65287, 65287, 1⟩, ⟨65294, 65294, 1⟩, ⟨65306, 65306, 1⟩, ⟨65342, 65342, 1⟩, ⟨65344, 65344, 1⟩,
  ⟨65392, 65392, 1⟩, ⟨65438, 65439, 1⟩, ⟨65507, 65507, 1⟩, ⟨65529, 65531, 1⟩, ⟨66045, 66045, 1⟩,
  ⟨66272, 66272, 1⟩, ⟨66422, 66426, 1⟩, ⟨67456, 67461, 1⟩, ⟨67463, 67504, 1⟩, ⟨67506, 67514, 1⟩,
  ⟨68097, 68099, 1⟩, ⟨68101, 68102, 1⟩, ⟨68108, 68111, 1⟩, ⟨68152, 68154, 1⟩, ⟨68159, 68159, 1⟩,
  ⟨68325, 68326, 1⟩, ⟨68900, 68903, 1⟩, ⟨68942, 68942, 1⟩, ⟨68969, 68973, 1⟩, ⟨68975, 68975, 1⟩,
  ⟨69291, 69292, 1⟩, ⟨69373, 69375, 1⟩, ⟨69446, 69456, 1⟩, ⟨69506, 69509, 1⟩, ⟨69633, 69633, 1⟩,
  ⟨69688, 69702, 1⟩, ⟨69744, 69744, 1⟩, ⟨69747, 69748, 1⟩, ⟨69759, 69761, 1⟩, ⟨69811, 69814, 1⟩,
  ⟨69817, 69818, 1⟩, ⟨69821, 69821, 1⟩, ⟨69826, 69826, 1⟩, ⟨69837, 69837, 1⟩, ⟨69888, 69890, 1⟩,
  ⟨69927, 69931, 1⟩, ⟨69933, 69940, 1⟩, ⟨70003, 70003, 1⟩, ⟨70016, 70017, 1⟩, ⟨70070, 70078, 1⟩,
  ⟨70089, 70092, 1⟩, ⟨70095, 70095, 1⟩, ⟨70191, 70193, 1⟩, ⟨70196, 70196, 1⟩, ⟨70198, 70199, 1⟩,
  ⟨70206, 70206, 1⟩, ⟨70209, 70209, 1⟩, ⟨70367, 70367, 1⟩, ⟨70371, 70378, 1⟩, ⟨70400, 70401, 1⟩,
  ⟨70459, 70460, 1⟩, ⟨70464, 70464, 1⟩, ⟨70502, 70508, 1⟩, ⟨70512, 70516, 1⟩, ⟨70712, 70719, 1⟩,
  ⟨70722, 70724, 1⟩, ⟨70726, 70726, 1⟩, ⟨70750, 70750, 1⟩, ⟨70835, 70840, 1⟩, ⟨70842, 70842, 1⟩,
  ⟨70847, 70848, 1⟩, ⟨70850, 70851, 1⟩, ⟨71090, 71093, 1⟩, ⟨71100, 71101, 1⟩, ⟨71103, 71104, 1⟩,
  ⟨71132, 71133, 1⟩, ⟨71219, 71226, 1⟩, ⟨71229, 71229, 1⟩, ⟨71231, 71232, 1⟩, ⟨71339, 71339, 1⟩,
  ⟨71341, 71341, 1⟩, ⟨71344, 71349, 1⟩, ⟨71351, 71351, 1⟩, ⟨71453, 71455, 1⟩, ⟨71458, 71461, 1⟩,
  ⟨71463, 71467, 1⟩, ⟨71727, 71735, 1⟩, ⟨71737, 71738, 1⟩, ⟨71995, 71996, 1⟩, ⟨71998, 71998, 1⟩,
  ⟨72003, 72003, 1⟩, ⟨72148, 72151, 1⟩, ⟨72154, 72155, 1⟩, ⟨72160, 72160, 1⟩, ⟨72193, 72202, 1⟩,
  ⟨72243, 72248, 1⟩, ⟨72251, 72254, 1⟩, ⟨72263, 72263, 1⟩, ⟨72273, 72278, 1⟩, ⟨72281, 72283, 1⟩,
  ⟨72330, 72342, 1⟩, ⟨72344, 72345, 1⟩, ⟨72752, 72758, 1⟩, ⟨72760, 72765, 1⟩, ⟨72767, 72767, 1⟩,
  ⟨72850, 72871, 1⟩, ⟨72874, 72880, 1⟩, ⟨72882, 72883, 1⟩, ⟨72885, 72886, 1⟩, ⟨73009, 73014, 1⟩,
  ⟨73018, 73018, 1⟩, ⟨73020, 73021, 1⟩, ⟨73023, 73029, 1⟩, ⟨73031, 73031, 1⟩, ⟨73104, 73105, 1⟩,
  ⟨73109, 73109, 1⟩, ⟨73111, 73111, 1⟩, ⟨73459, 73460, 1⟩, ⟨73472, 73473, 1⟩, ⟨73526, 73530, 1⟩,
  ⟨73536, 73536, 1⟩, ⟨73538, 73538, 1⟩, ⟨78896, 78912, 1⟩, ⟨78919, 78933, 1⟩, ⟨92912, 92916, 1⟩,
  ⟨92976, 92982, 1⟩, ⟨92992, 92995, 1⟩, ⟨94031, 94031, 1⟩, ⟨94095, 94111, 1⟩, ⟨94176, 94177, 1⟩,
  ⟨94179, 94180, 1⟩, ⟨110576, 110579, 1⟩, ⟨110581, 110587, 1⟩, ⟨110589, 110590, 1⟩,
  ⟨113821, 113822, 1⟩, ⟨113824, 113827, 1⟩, ⟨118528, 118573, 1⟩, ⟨118576, 118598, 1⟩,
  ⟨119143, 119145, 1⟩, ⟨119155, 119170, 1⟩, ⟨119173, 119179, 1⟩, ⟨119210, 119213, 1⟩,
  ⟨119362, 119364, 1⟩, ⟨121344, 121398, 1⟩, ⟨121403, 121452, 1⟩, ⟨121461, 121461, 1⟩,
  ⟨121476, 121476, 1⟩, ⟨121499, 121503, 1⟩, ⟨121505, 121519, 1⟩, ⟨122880, 122886, 1⟩,
  ⟨122888, 122904, 1⟩, ⟨122907, 122913, 1⟩, ⟨122915, 122916, 1⟩, ⟨122918, 122922, 1⟩,
  ⟨122928, 122989, 1⟩, ⟨123023, 123023, 1⟩, ⟨123184, 123197, 1⟩, ⟨123566, 123566, 1⟩,
  ⟨123628, 123631, 1⟩, ⟨124139, 124143, 1⟩, ⟨125136, 125142, 1⟩, ⟨125252, 125259, 1⟩,
  ⟨127995, 127999, 1⟩, ⟨917505, 917505, 1⟩, ⟨917536, 917631, 1⟩, ⟨917760, 917999, 1⟩]

/-- Uppercase mappings to one character. -/
def toUpperShifts : List Shift := [
  ⟨⟨97, 122, 1⟩, -32⟩, ⟨⟨181, 181, 1⟩, 743⟩, ⟨⟨224, 246, 1⟩, -32⟩,
  ⟨⟨248, 254, 1⟩, -32⟩, ⟨⟨255, 255, 1⟩, 121⟩, ⟨⟨257, 303, 2⟩, -1⟩,
  ⟨⟨305, 305, 1⟩, -232⟩, ⟨⟨307, 311, 2⟩, -1⟩, ⟨⟨314, 328, 2⟩, -1⟩,
  ⟨⟨331, 375, 2⟩, -1⟩, ⟨⟨378, 382, 2⟩, -1⟩, ⟨⟨383, 383, 1⟩, -300⟩,
  ⟨⟨384, 384, 1⟩, 195⟩, ⟨⟨387, 389, 2⟩, -1⟩, ⟨⟨392, 392, 1⟩, -1⟩,
  ⟨⟨396, 396, 1⟩, -1⟩, ⟨⟨402, 402, 1⟩, -1⟩, ⟨⟨405, 405, 1⟩, 97⟩,
  ⟨⟨409, 409, 1⟩, -1⟩, ⟨⟨410, 410, 1⟩, 163⟩, ⟨⟨411, 411, 1⟩, 42561⟩,
  ⟨⟨414, 414, 1⟩, 130⟩, ⟨⟨417, 421, 2⟩, -1⟩, ⟨⟨424, 424, 1⟩, -1⟩,
  ⟨⟨429, 429, 1⟩, -1⟩, ⟨⟨432, 432, 1⟩, -1⟩, ⟨⟨436, 438, 2⟩, -1⟩,
  ⟨⟨441, 441, 1⟩, -1⟩, ⟨⟨445, 445, 1⟩, -1⟩, ⟨⟨447, 447, 1⟩, 56⟩,
  ⟨⟨453, 453, 1⟩, -1⟩, ⟨⟨454, 454, 1⟩, -2⟩, ⟨⟨456, 456, 1⟩, -1⟩,
  ⟨⟨457, 457, 1⟩, -2⟩, ⟨⟨459, 459, 1⟩, -1⟩, ⟨⟨460, 460, 1⟩, -2⟩,
  ⟨⟨462, 476, 2⟩, -1⟩, ⟨⟨477, 477, 1⟩, -79⟩, ⟨⟨479, 495, 2⟩, -1⟩,
  ⟨⟨498, 498, 1⟩, -1⟩, ⟨⟨499, 499, 1⟩, -2⟩, ⟨⟨501, 501, 1⟩, -1⟩,
  ⟨⟨505, 543, 2⟩, -1⟩, ⟨⟨547, 563, 2⟩, -1⟩, ⟨⟨572, 572, 1⟩, -1⟩,
  ⟨⟨575, 576, 1⟩, 10815⟩, ⟨⟨578, 578, 1⟩, -1⟩, ⟨⟨583, 591, 2⟩, -1⟩,
  ⟨⟨592, 592, 1⟩, 10783⟩, ⟨⟨593, 593, 1⟩, 10780⟩, ⟨⟨594, 594, 1⟩, 10782⟩,
  ⟨⟨595, 595, 1⟩, -210⟩, ⟨⟨596, 596, 1⟩, -206⟩, ⟨⟨598, 599, 1⟩, -205⟩,
  ⟨⟨601, 601, 1⟩, -202⟩, ⟨⟨603, 603, 1⟩, -203⟩, ⟨⟨604, 604, 1⟩, 42319⟩,
  ⟨⟨608, 608, 1⟩, -205⟩, ⟨⟨609, 609, 1⟩, 42315⟩, ⟨⟨611, 611, 1⟩, -207⟩,
  ⟨⟨612, 612, 1⟩, 42343⟩, ⟨⟨613, 613, 1⟩, 42280⟩, ⟨⟨614, 614, 1⟩, 42308⟩,
  ⟨⟨616, 616, 1⟩, -209⟩, ⟨⟨617, 617, 1⟩, -211⟩, ⟨⟨618, 618, 1⟩, 42308⟩,
  ⟨⟨619, 619, 1⟩, 10743⟩, ⟨⟨620, 620, 1⟩, 42305⟩, ⟨⟨623, 623, 1⟩, -211⟩,
  ⟨⟨625, 625, 1⟩, 10749⟩, ⟨⟨626, 626, 1⟩, -213⟩, ⟨⟨629, 629, 1⟩, -214⟩,
  ⟨⟨637, 637, 1⟩, 10727⟩, ⟨⟨640, 640, 1⟩, -218⟩, ⟨⟨642, 642, 1⟩, 42307⟩,
  ⟨⟨643, 643, 1⟩, -218⟩, ⟨⟨647, 647, 1⟩, 42282⟩, ⟨⟨648, 648, 1⟩, -218⟩,
  ⟨⟨649, 649, 1⟩, -69⟩, ⟨⟨650, 651, 1⟩, -217⟩, ⟨⟨652, 652, 1⟩, -71⟩,
  ⟨⟨658, 658, 1⟩, -219⟩, ⟨⟨669, 669, 1⟩, 42261⟩, ⟨⟨670, 670, 1⟩, 42258⟩,
  ⟨⟨837, 837, 1⟩, 84⟩, ⟨⟨881, 883, 2⟩, -1⟩, ⟨⟨887, 887, 1⟩, -1⟩,
  ⟨⟨891, 893, 1⟩, 130⟩, ⟨⟨940, 940, 1⟩, -38⟩, ⟨⟨941, 943, 1⟩, -37⟩,
  ⟨⟨945, 961, 1⟩, -32⟩, ⟨⟨962, 962, 1⟩, -31⟩, ⟨⟨963, 971, 1⟩, -32⟩,
  ⟨⟨972, 972, 1⟩, -64⟩, ⟨⟨973, 974, 1⟩, -63⟩, ⟨⟨976, 976, 1⟩, -62⟩,
  ⟨⟨977, 977, 1⟩, -57⟩, ⟨⟨981, 981, 1⟩, -47⟩, ⟨⟨982, 982, 1⟩, -54⟩,
  ⟨⟨983, 983, 1⟩, -8⟩, ⟨⟨985, 1007, 2⟩, -1⟩, ⟨⟨1008, 1008, 1⟩, -86⟩,
  ⟨⟨1009, 1009, 1⟩, -80⟩, ⟨⟨1010, 1010, 1⟩, 7⟩, ⟨⟨1011, 1011, 1⟩, -116⟩,
  ⟨⟨1013, 1013, 1⟩, -96⟩, ⟨⟨1016, 1016, 1⟩, -1⟩, ⟨⟨1019, 1019, 1⟩, -1⟩,
  ⟨⟨1072, 1103, 1⟩, -32⟩, ⟨⟨1104, 1119, 1⟩, -80⟩, ⟨⟨1121, 1153, 2⟩, -1⟩,
  ⟨⟨1163, 1215, 2⟩, -1⟩, ⟨⟨1218, 1230, 2⟩, -1⟩, ⟨⟨1231, 1231, 1⟩, -15⟩,
  ⟨⟨1233, 1327, 2⟩, -1⟩, ⟨⟨1377, 1414, 1⟩, -48⟩, ⟨⟨4304, 4346, 1⟩, 3008⟩,
  ⟨⟨4349, 4351, 1⟩, 3008⟩, ⟨⟨5112, 5117, 1⟩, -8⟩, ⟨⟨7296, 7296, 1⟩, -6254⟩,
  ⟨⟨7297, 7297, 1⟩, -6253⟩, ⟨⟨7298, 7298, 1⟩, -6244⟩, ⟨⟨7299, 7300, 1⟩, -6242⟩,
  ⟨⟨7301, 7301, 1⟩, -6243⟩, ⟨⟨7302, 7302, 1⟩, -6236⟩, ⟨⟨7303, 7303, 1⟩, -6181⟩,
  ⟨⟨7304, 7304, 1⟩, 35266⟩, ⟨⟨7306, 7306, 1⟩, -1⟩, ⟨⟨7545, 7545, 1⟩, 35332⟩,
  ⟨⟨7549, 7549, 1⟩, 3814⟩, ⟨⟨7566, 7566, 1⟩, 35384⟩, ⟨⟨7681, 7829, 2⟩, -1⟩,
  ⟨⟨7835, 7835, 1⟩, -59⟩, ⟨⟨7841, 7935, 2⟩, -1⟩, ⟨⟨7936, 7943, 1⟩, 8⟩,
  ⟨⟨7952, 7957, 1⟩, 8⟩, ⟨⟨7968, 7975, 1⟩, 8⟩, ⟨⟨7984, 7991, 1⟩, 8⟩,
  ⟨⟨8000, 8005, 1⟩, 8⟩, ⟨⟨8017, 8023, 2⟩, 8⟩, ⟨⟨8032, 8039, 1⟩, 8⟩,
  ⟨⟨8048, 8049, 1⟩, 74⟩, ⟨⟨8050, 8053, 1⟩, 86⟩, ⟨⟨8054, 8055, 1⟩, 100⟩,
  ⟨⟨8056, 8057, 1⟩, 128⟩, ⟨⟨8058, 8059, 1⟩, 112⟩, ⟨⟨8060, 8061, 1⟩, 126⟩,
  ⟨⟨8112, 8113, 1⟩, 8⟩, ⟨⟨8126, 8126, 1⟩, -7205⟩, ⟨⟨8144, 8145, 1⟩, 8⟩,
  ⟨⟨8160, 8161, 1⟩, 8⟩, ⟨⟨8165, 8165, 1⟩, 7⟩, ⟨⟨8526, 8526, 1⟩, -28⟩,
  ⟨⟨8560, 8575, 1⟩, -16⟩, ⟨⟨8580, 8580, 1⟩, -1⟩, ⟨⟨9424, 9449, 1⟩, -26⟩,
  ⟨⟨11312, 11359, 1⟩, -48⟩, ⟨⟨11361, 11361, 1⟩, -1⟩, ⟨⟨11365, 11365, 1⟩, -10795⟩,
  ⟨⟨11366, 11366, 1⟩, -10792⟩, ⟨⟨11368, 11372, 2⟩, -1⟩, ⟨⟨11379, 11379, 1⟩, -1⟩,
  ⟨⟨11382, 11382, 1⟩, -1⟩, ⟨⟨11393, 11491, 2⟩, -1⟩, ⟨⟨11500, 11502, 2⟩, -1⟩,
  ⟨⟨11507, 11507, 1⟩, -1⟩, ⟨⟨11520, 11557, 1⟩, -7264⟩, ⟨⟨11559, 11559, 1⟩, -7264⟩,
  ⟨⟨11565, 11565, 1⟩, -7264⟩, ⟨⟨42561, 42605, 2⟩, -1⟩, ⟨⟨42625, 42651, 2⟩, -1⟩,
  ⟨⟨42787, 42799, 2⟩, -1⟩, ⟨⟨42803, 42863, 2⟩, -1⟩, ⟨⟨42874, 42876, 2⟩, -1⟩,
  ⟨⟨42879, 42887, 2⟩, -1⟩, ⟨⟨42892, 42892, 1⟩, -1⟩, ⟨⟨42897, 42899, 2⟩, -1⟩,
  ⟨⟨42900, 42900, 1⟩, 48⟩, ⟨⟨42903, 42921, 2⟩, -1⟩, ⟨⟨42933, 42947, 2⟩, -1⟩,
  ⟨⟨42952, 42954, 2⟩, -1⟩, ⟨⟨42957, 42957, 1⟩, -1⟩, ⟨⟨42961, 42961, 1⟩, -1⟩,
  ⟨⟨42967, 42971, 2⟩, -1⟩, ⟨⟨42998, 42998, 1⟩, -1⟩, ⟨⟨43859, 43859, 1⟩, -928⟩,
  ⟨⟨43888, 43967, 1⟩, -38864⟩, ⟨⟨65345, 65370, 1⟩, -32⟩, ⟨⟨66600, 66639, 1⟩, -40⟩,
  ⟨⟨66776, 66811, 1⟩, -40⟩, ⟨⟨66967, 66977, 1⟩, -39⟩, ⟨⟨66979, 66993, 1⟩, -39⟩,
  ⟨⟨66995, 67001, 1⟩, -39⟩, ⟨⟨67003, 67004, 1⟩, -39⟩, ⟨⟨68800, 68850, 1⟩, -64⟩,
  ⟨⟨68976, 68997, 1⟩, -32⟩, ⟨⟨71872, 71903, 1⟩, -32⟩, ⟨⟨93792, 93823, 1⟩, -32⟩,
  ⟨⟨125218, 125251, 1⟩, -34⟩]

/-- Lowercase mappings to one character. -/
def toLowerShifts : List Shift := [
  ⟨⟨65, 90, 1⟩, 32⟩, ⟨⟨192, 214, 1⟩, 32⟩, ⟨⟨216, 222, 1⟩, 32⟩,
  ⟨⟨256, 302, 2⟩, 1⟩, ⟨⟨306, 310, 2⟩, 1⟩, ⟨⟨313, 327, 2⟩, 1⟩,
  ⟨⟨330, 374, 2⟩, 1⟩, ⟨⟨376, 376, 1⟩, -121⟩, ⟨⟨377, 381, 2⟩, 1⟩,
  ⟨⟨385, 385, 1⟩, 210⟩, ⟨⟨386, 388, 2⟩, 1⟩, ⟨⟨390, 390, 1⟩, 206⟩,
  ⟨⟨391, 391, 1⟩, 1⟩, ⟨⟨393, 394, 1⟩, 205⟩, ⟨⟨395, 395, 1⟩, 1⟩,
  ⟨⟨398, 398, 1⟩, 79⟩, ⟨⟨399, 399, 1⟩, 202⟩, ⟨⟨400, 400, 1⟩, 203⟩,
  ⟨⟨401, 401, 1⟩, 1⟩, ⟨⟨403, 403, 1⟩, 205⟩, ⟨⟨404, 404, 1⟩, 207⟩,
  ⟨⟨406, 406, 1⟩, 211⟩, ⟨⟨407, 407, 1⟩, 209⟩, ⟨⟨408, 408, 1⟩, 1⟩,
  ⟨⟨412, 412, 1⟩, 211⟩, ⟨⟨413, 413, 1⟩, 213⟩, ⟨⟨415, 415, 1⟩, 214⟩,
  ⟨⟨416, 420, 2⟩, 1⟩, ⟨⟨422, 422, 1⟩, 218⟩, ⟨⟨423, 423, 1⟩, 1⟩,
  ⟨⟨425, 425, 1⟩, 218⟩, ⟨⟨428, 428, 1⟩, 1⟩, ⟨⟨430, 430, 1⟩, 218⟩,
  ⟨⟨431, 431, 1⟩, 1⟩, ⟨⟨433, 434, 1⟩, 217⟩, ⟨⟨435, 437, 2⟩, 1⟩,
  ⟨⟨439, 439, 1⟩, 219⟩, ⟨⟨440, 440, 1⟩, 1⟩, ⟨⟨444, 444, 1⟩, 1⟩,
  ⟨⟨452, 452, 1⟩, 2⟩, ⟨⟨453, 453, 1⟩, 1⟩, ⟨⟨455, 455, 1⟩, 2⟩,
  ⟨⟨456, 456, 1⟩, 1⟩, ⟨⟨458, 458, 1⟩, 2⟩, ⟨⟨459, 475, 2⟩, 1⟩,
  ⟨⟨478, 494, 2⟩, 1⟩, ⟨⟨497, 497, 1⟩, 2⟩, ⟨⟨498, 500, 2⟩, 1⟩,
  ⟨⟨502, 502, 1⟩, -97⟩, ⟨⟨503, 503, 1⟩, -56⟩, ⟨⟨504, 542, 2⟩, 1⟩,
  ⟨⟨544, 544, 1⟩, -130⟩, ⟨⟨546, 562, 2⟩, 1⟩, ⟨⟨570, 570, 1⟩, 10795⟩,
  ⟨⟨571, 571, 1⟩, 1⟩, ⟨⟨573, 573, 1⟩, -163⟩, ⟨⟨574, 574, 1⟩, 10792⟩,
  ⟨⟨577, 577, 1⟩, 1⟩, ⟨⟨579, 579, 1⟩, -195⟩, ⟨⟨580, 580, 1⟩, 69⟩,
  ⟨⟨581, 581, 1⟩, 71⟩, ⟨⟨582, 590, 2⟩, 1⟩, ⟨⟨880, 882, 2⟩, 1⟩,
  ⟨⟨886, 886, 1⟩, 1⟩, ⟨⟨895, 895, 1⟩, 116⟩, ⟨⟨902, 902, 1⟩, 38⟩,
  ⟨⟨904, 906, 1⟩, 37⟩, ⟨⟨908, 908, 1⟩, 64⟩, ⟨⟨910, 911, 1⟩, 63⟩,
  ⟨⟨913, 929, 1⟩, 32⟩, ⟨⟨931, 939, 1⟩, 32⟩, ⟨⟨975, 975, 1⟩, 8⟩,
  ⟨⟨984, 1006, 2⟩, 1⟩, ⟨⟨1012, 1012, 1⟩, -60⟩, ⟨⟨1015, 1015, 1⟩, 1⟩,
  ⟨⟨1017, 1017, 1⟩, -7⟩, ⟨⟨1018, 1018, 1⟩, 1⟩, ⟨⟨1021, 1023, 1⟩, -130⟩,
  ⟨⟨1024, 1039, 1⟩, 80⟩, ⟨⟨1040, 1071, 1⟩, 32⟩, ⟨⟨1120, 1152, 2⟩, 1⟩,
  ⟨⟨1162, 1214, 2⟩, 1⟩, ⟨⟨1216, 1216, 1⟩, 15⟩, ⟨⟨1217, 1229, 2⟩, 1⟩,
  ⟨⟨1232, 1326, 2⟩, 1⟩, ⟨⟨1329, 1366, 1⟩, 48⟩, ⟨⟨4256, 4293, 1⟩, 7264⟩,
  ⟨⟨4295, 4295, 1⟩, 7264⟩, ⟨⟨4301, 4301, 1⟩, 7264⟩, ⟨⟨5024, 5103, 1⟩, 38864⟩,
  ⟨⟨5104, 5109, 1⟩, 8⟩, ⟨⟨7305, 7305, 1⟩, 1⟩, ⟨⟨7312, 7354, 1⟩, -3008⟩,
  ⟨⟨7357, 7359, 1⟩, -3008⟩, ⟨⟨7680, 7828, 2⟩, 1⟩, ⟨⟨7838, 7838, 1⟩, -7615⟩,
  ⟨⟨7840, 7934, 2⟩, 1⟩, ⟨⟨7944, 7951, 1⟩, -8⟩, ⟨⟨7960, 7965, 1⟩, -8⟩,
  ⟨⟨7976, 7983, 1⟩, -8⟩, ⟨⟨7992, 7999, 1⟩, -8⟩, ⟨⟨8008, 8013, 1⟩, -8⟩,
  ⟨⟨8025, 8031, 2⟩, -8⟩, ⟨⟨8040, 8047, 1⟩, -8⟩, ⟨⟨8072, 8079, 1⟩, -8⟩,
  ⟨⟨8088, 8095, 1⟩, -8⟩, ⟨⟨8104, 8111, 1⟩, -8⟩, ⟨⟨8120, 8121, 1⟩, -8⟩,
  ⟨⟨8122, 8123, 1⟩, -74⟩, ⟨⟨8124, 8124, 1⟩, -9⟩, ⟨⟨8136, 8139, 1⟩, -86⟩,
  ⟨⟨8140, 8140, 1⟩, -9⟩, ⟨⟨8152, 8153, 1⟩, -8⟩, ⟨⟨8154, 8155, 1⟩, -100⟩,
  ⟨⟨8168, 8169, 1⟩, -8⟩, ⟨⟨8170, 8171, 1⟩, -112⟩, ⟨⟨8172, 8172, 1⟩, -7⟩,
  ⟨⟨8184, 8185, 1⟩, -128⟩, ⟨⟨8186, 8187, 1⟩, -126⟩, ⟨⟨8188, 8188, 1⟩, -9⟩,
  ⟨⟨8486, 8486, 1⟩, -7517⟩, ⟨⟨8490, 8490, 1⟩, -8383⟩, ⟨⟨8491, 8491, 1⟩, -8262⟩,
  ⟨⟨8498, 8498, 1⟩, 28⟩, ⟨⟨8544, 8559, 1⟩, 16⟩, ⟨⟨8579, 8579, 1⟩, 1⟩,
  ⟨⟨9398, 9423, 1⟩, 26⟩, ⟨⟨11264, 11311, 1⟩, 48⟩, ⟨⟨11360, 11360, 1⟩, 1⟩,
  ⟨⟨11362, 11362, 1⟩, -10743⟩, ⟨⟨11363, 11363, 1⟩, -3814⟩, ⟨⟨11364, 11364, 1⟩, -10727⟩,
  ⟨⟨11367, 11371, 2⟩, 1⟩, ⟨⟨11373, 11373, 1⟩, -10780⟩, ⟨⟨11374, 11374, 1⟩, -10749⟩,
  ⟨⟨11375, 11375, 1⟩, -10783⟩, ⟨⟨11376, 11376, 1⟩, -10782⟩, ⟨⟨11378, 11378, 1⟩, 1⟩,
  ⟨⟨11381, 11381, 1⟩, 1⟩, ⟨⟨11390, 11391, 1⟩, -10815⟩, ⟨⟨11392, 11490, 2⟩, 1⟩,
  ⟨⟨11499, 11501, 2⟩, 1⟩, ⟨⟨11506, 11506, 1⟩, 1⟩, ⟨⟨42560, 42604, 2⟩, 1⟩,
  ⟨⟨42624, 42650, 2⟩, 1⟩, ⟨⟨42786, 42798, 2⟩, 1⟩, ⟨⟨42802, 42862, 2⟩, 1⟩,
  ⟨⟨42873, 42875, 2⟩, 1⟩, ⟨⟨42877, 42877, 1⟩, -35332⟩, ⟨⟨42878, 42886, 2⟩, 1⟩,
  ⟨⟨42891, 42891, 1⟩, 1⟩, ⟨⟨42893, 42893, 1⟩, -42280⟩, ⟨⟨42896, 42898, 2⟩, 1⟩,
  ⟨⟨42902, 42920, 2⟩, 1⟩, ⟨⟨42922, 42922, 1⟩, -42308⟩, ⟨⟨42923, 42923, 1⟩, -42319⟩,
  ⟨⟨42924, 42924, 1⟩, -42315⟩, ⟨⟨42925, 42925, 1⟩, -42305⟩, ⟨⟨42926, 42926, 1⟩, -42308⟩,
  ⟨⟨42928, 42928, 1⟩, -42258⟩, ⟨⟨42929, 42929, 1⟩, -42282⟩, ⟨⟨42930, 42930, 1⟩, -42261⟩,
  ⟨⟨42931, 42931, 1⟩, 928⟩, ⟨⟨42932, 42946, 2⟩, 1⟩, ⟨⟨42948, 42948, 1⟩, -48⟩,
  ⟨⟨42949, 42949, 1⟩, -42307⟩, ⟨⟨42950, 42950, 1⟩, -35384⟩, ⟨⟨42951, 42953, 2⟩, 1⟩,
  ⟨⟨42955, 42955, 1⟩, -42343⟩, ⟨⟨42956, 42956, 1⟩, 1⟩, ⟨⟨42960, 42960, 1⟩, 1⟩,
  ⟨⟨42966, 42970, 2⟩, 1⟩, ⟨⟨42972, 42972, 1⟩, -42561⟩, ⟨⟨42997, 42997, 1⟩, 1⟩,
  ⟨⟨65313, 65338, 1⟩, 32⟩, ⟨⟨66560, 66599, 1⟩, 40⟩, ⟨⟨66736, 66771, 1⟩, 40⟩,
  ⟨⟨66928, 66938, 1⟩, 39⟩, ⟨⟨66940, 66954, 1⟩, 39⟩, ⟨⟨66956, 66962, 1⟩, 39⟩,
  ⟨⟨66964, 66965, 1⟩, 39⟩, ⟨⟨68736, 68786, 1⟩, 64⟩, ⟨⟨68944, 68965, 1⟩, 32⟩,
  ⟨⟨71840, 71871, 1⟩, 32⟩, ⟨⟨93760, 93791, 1⟩, 32⟩, ⟨⟨125184, 125217, 1⟩, 34⟩]

/-- Uppercase mappings to several characters. -/
def toUpperSequences : List (Nat × List Nat) := [
  (223, [83, 83]), (329, [700, 78]), (496, [74, 780]),
  (912, [921, 776, 769]), (944, [933, 776, 769]), (1415, [1333, 1362]),
  (7830, [72, 817]), (7831, [84, 776]), (7832, [87, 778]),
  (7833, [89, 778]), (7834, [65, 702]), (8016, [933, 787]),
  (8018, [933, 787, 768]), (8020, [933, 787, 769]), (8022, [933, 787, 834]),
  (8064, [7944, 921]), (8065, [7945, 921]), (8066, [7946, 921]),
  (8067, [7947, 921]), (8068, [7948, 921]), (8069, [7949, 921]),
  (8070, [7950, 921]), (8071, [7951, 921]), (8072, [7944, 921]),
  (8073, [7945, 921]), (8074, [7946, 921]), (8075, [7947, 921]),
  (8076, [7948, 921]), (8077, [7949, 921]), (8078, [7950, 921]),
  (8079, [7951, 921]), (8080, [7976, 921]), (8081, [7977, 921]),
  (8082, [7978, 921]), (8083, [7979, 921]), (8084, [7980, 921]),
  (8085, [7981, 921]), (8086, [7982, 921]), (8087, [7983, 921]),
  (8088, [7976, 921]), (8089, [7977, 921]), (8090, [7978, 921]),
  (8091, [7979, 921]), (8092, [7980, 921]), (8093, [7981, 921]),
  (8094, [7982, 921]), (8095, [7983, 921]), (8096, [8040, 921]),
  (8097, [8041, 921]), (8098, [8042, 921]), (8099, [8043, 921]),
  (8100, [8044, 921]), (8101, [8045, 921]), (8102, [8046, 921]),
  (8103, [8047, 921]), (8104, [8040, 921]), (8105, [8041, 921]),
  (8106, [8042, 921]), (8107, [8043, 921]), (8108, [8044, 921]),
  (8109, [8045, 921]), (8110, [8046, 921]), (8111, [8047, 921]),
  (8114, [8122, 921]), (8115, [913, 921]), (8116, [902, 921]),
  (8118, [913, 834]), (8119, [913, 834, 921]), (8124, [913, 921]),
  (8130, [8138, 921]), (8131, [919, 921]), (8132, [905, 921]),
  (8134, [919, 834]), (8135, [919, 834, 921]), (8140, [919, 921]),
  (8146, [921, 776, 768]), (8147, [921, 776, 769]), (8150, [921, 834]),
  (8151, [921, 776, 834]), (8162, [933, 776, 768]), (8163, [933, 776, 769]),
  (8164, [929, 787]), (8166, [933, 834]), (8167, [933, 776, 834]),
  (8178, [8186, 921]), (8179, [937, 921]), (8180, [911, 921]),
  (8182, [937, 834]), (8183, [937, 834, 921]), (8188, [937, 921]),
  (64256, [70, 70]), (64257, [70, 73]), (64258, [70, 76]),
  (64259, [70, 70, 73]), (64260, [70, 70, 76]), (64261, [83, 84]),
  (64262, [83, 84]), (64275, [1348, 1350]), (64276, [1348, 1333]),
  (64277, [1348, 1339]), (64278, [1358, 1350]), (64279, [1348, 1341])]

/-- Lowercase mappings to several characters. -/
def toLowerSequences : List (Nat × List Nat) := [
  (304, [105, 775])]

end Boundary.Text.CaseTable
