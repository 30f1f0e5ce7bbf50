-- The schedule of `global_preprocess_chess`: the table `asses` of the source,
-- one pair per batch, of the literals to assume and the `global_try` to learn.
-- Every literal to assume is positive and every literal to learn negative, so
-- the table is written with natural numbers and a sign.
import Mathlib.Data.List.Defs

namespace cautical

/-- The positive literals `l`. -/
def pos (l : List Nat) : List Int := l.map Int.ofNat

/-- The negative literals `-l`. -/
def neg (l : List Nat) : List Int := l.map fun n => -Int.ofNat n

/-- `asses`, in the order of the source. -/
def asses : List (List Int × List Int) := [
  (pos [1, 10], neg [92, 91]),
  (pos [2, 11], neg [93, 92]),
  (pos [3, 12], neg [94, 93]),
  (pos [4, 13], neg [95, 94]),
  (pos [5, 14], neg [96, 95]),
  (pos [6, 15], neg [96, 97]),
  (pos [16, 7], neg [98, 97]),
  (pos [8, 17], neg [99, 98]),
  (pos [9, 18], neg [100, 99]),
  (pos [10, 19], neg [102, 101]),
  (pos [11, 20], neg [103, 102]),
  (pos [12, 21], neg [104, 103]),
  (pos [13, 22], neg [104, 105]),
  (pos [14, 23], neg [106, 105]),
  (pos [24, 15], neg [107, 106]),
  (pos [16, 25], neg [108, 107]),
  (pos [17, 26], neg [109, 108]),
  (pos [18, 27], neg [110, 109]),
  (pos [19, 28], neg [112, 111]),
  (pos [20, 29], neg [112, 113]),
  (pos [21, 30], neg [114, 113]),
  (pos [22, 31], neg [115, 114]),
  (pos [32, 23], neg [116, 115]),
  (pos [24, 33], neg [117, 116]),
  (pos [25, 34], neg [118, 117]),
  (pos [26, 35], neg [119, 118]),
  (pos [27, 36], neg [120, 119]),
  (pos [28, 37], neg [122, 121]),
  (pos [29, 38], neg [123, 122]),
  (pos [30, 39], neg [124, 123]),
  (pos [40, 31], neg [125, 124]),
  (pos [32, 41], neg [126, 125]),
  (pos [33, 42], neg [127, 126]),
  (pos [34, 43], neg [128, 127]),
  (pos [35, 44], neg [128, 129]),
  (pos [36, 45], neg [130, 129]),
  (pos [37, 46], neg [132, 131]),
  (pos [38, 47], neg [133, 132]),
  (pos [48, 39], neg [134, 133]),
  (pos [40, 49], neg [135, 134]),
  (pos [41, 50], neg [136, 135]),
  (pos [42, 51], neg [136, 137]),
  (pos [43, 52], neg [138, 137]),
  (pos [44, 53], neg [139, 138]),
  (pos [45, 54], neg [140, 139]),
  (pos [46, 55], neg [142, 141]),
  (pos [56, 47], neg [143, 142]),
  (pos [48, 57], neg [144, 143]),
  (pos [49, 58], neg [144, 145]),
  (pos [50, 59], neg [146, 145]),
  (pos [51, 60], neg [147, 146]),
  (pos [52, 61], neg [148, 147]),
  (pos [53, 62], neg [149, 148]),
  (pos [54, 63], neg [150, 149]),
  (pos [64, 55], neg [152, 151]),
  (pos [56, 65], neg [152, 153]),
  (pos [57, 66], neg [154, 153]),
  (pos [58, 67], neg [155, 154]),
  (pos [59, 68], neg [156, 155]),
  (pos [60, 69], neg [157, 156]),
  (pos [61, 70], neg [158, 157]),
  (pos [62, 71], neg [159, 158]),
  (pos [72, 63], neg [160, 159]),
  (pos [64, 73], neg [162, 161]),
  (pos [65, 74], neg [163, 162]),
  (pos [66, 75], neg [164, 163]),
  (pos [67, 76], neg [165, 164]),
  (pos [68, 77], neg [166, 165]),
  (pos [69, 78], neg [167, 166]),
  (pos [70, 79], neg [168, 167]),
  (pos [80, 71], neg [168, 169]),
  (pos [72, 81], neg [170, 169]),
  (pos [73, 82], neg [172, 171]),
  (pos [74, 83], neg [173, 172]),
  (pos [75, 84], neg [174, 173]),
  (pos [76, 85], neg [175, 174]),
  (pos [77, 86], neg [176, 175]),
  (pos [78, 87], neg [176, 177]),
  (pos [88, 79], neg [178, 177]),
  (pos [80, 89], neg [179, 178]),
  (pos [81, 90], neg [180, 179]),
  (pos [8, 17, 100], neg [18, 98, 9]),
  (pos [17, 26, 110], neg [108, 27, 18]),
  (pos [120, 26, 35], neg [118, 36, 27]),
  (pos [130, 35, 44], neg [128, 45, 36]),
  (pos [140, 44, 53], neg [54, 45, 138]),
  (pos [150, 53, 62], neg [63, 54, 148]),
  (pos [160, 62, 71], neg [72, 63, 158]),
  (pos [80, 170, 71], neg [168, 72, 81]),
  (pos [80, 89, 180], neg [90, 178, 81]),
  (pos [16, 9, 18, 7], neg [8, 17, 100, 97]),
  (pos [16, 99, 7], neg [8, 17, 97]),
  (pos [16, 25, 18, 27], neg [110, 107, 26, 17]),
  (pos [16, 25, 109], neg [107, 26, 17]),
  (pos [25, 34, 27, 36], neg [120, 117, 35, 26]),
  (pos [25, 34, 119], neg [117, 35, 26]),
  (pos [34, 43, 36, 45], neg [127, 44, 35, 130]),
  (pos [129, 34, 43], neg [127, 44, 35]),
  (pos [43, 52, 45, 54], neg [140, 53, 44, 137]),
  (pos [43, 52, 139], neg [53, 44, 137]),
  (pos [52, 61, 54, 63], neg [62, 53, 147, 150]),
  (pos [52, 61, 149], neg [62, 53, 147]),
  (pos [72, 61, 70, 63], neg [160, 71, 62, 157]),
  (pos [61, 70, 159], neg [71, 62, 157]),
  (pos [72, 81, 70, 79], neg [80, 167, 71, 170]),
  (pos [169, 70, 79], neg [80, 167, 71]),
  (pos [88, 81, 90, 79], neg [80, 89, 180, 177]),
  (pos [88, 179, 79], neg [80, 89, 177]),
  (pos [100, 6, 8, 15, 17], neg [96, 18, 16, 9, 7]),
  (pos [8, 17, 6, 15], neg [96, 7, 99, 16]),
  (pos [98, 6, 15], neg [96, 7, 16]),
  (pos [110, 15, 17, 24, 26], neg [27, 25, 18, 16, 106]),
  (pos [24, 17, 26, 15], neg [16, 109, 106, 25]),
  (pos [24, 108, 15], neg [16, 106, 25]),
  (pos [33, 35, 24, 26, 120], neg [27, 25, 116, 36, 34]),
  (pos [24, 33, 26, 35], neg [119, 116, 34, 25]),
  (pos [24, 33, 118], neg [116, 34, 25]),
  (pos [33, 130, 35, 42, 44], neg [126, 45, 43, 36, 34]),
  (pos [33, 42, 35, 44], neg [126, 43, 34, 129]),
  (pos [128, 33, 42], neg [126, 43, 34]),
  (pos [42, 140, 44, 51, 53], neg [54, 52, 45, 43, 136]),
  (pos [42, 51, 44, 53], neg [136, 139, 52, 43]),
  (pos [42, 51, 138], neg [136, 52, 43]),
  (pos [51, 53, 150, 60, 62], neg [63, 61, 54, 52, 146]),
  (pos [51, 60, 53, 62], neg [61, 52, 146, 149]),
  (pos [148, 51, 60], neg [61, 52, 146]),
  (pos [160, 69, 71, 60, 62], neg [63, 61, 156, 72, 70]),
  (pos [60, 69, 62, 71], neg [159, 70, 61, 156]),
  (pos [60, 69, 158], neg [70, 61, 156]),
  (pos [69, 71, 170, 78, 80], neg [81, 79, 72, 70, 166]),
  (pos [80, 69, 78, 71], neg [70, 79, 166, 169]),
  (pos [168, 69, 78], neg [70, 79, 166]),
  (pos [78, 80, 180, 87, 89], neg [90, 88, 81, 176, 79]),
  (pos [80, 89, 78, 87], neg [176, 79, 179, 88]),
  (pos [178, 78, 87], neg [176, 79, 88]),
  (pos [5, 7, 9, 14, 16, 18], neg [95, 17, 15, 8, 6, 100]),
  (pos [99, 5, 7, 14, 16], neg [95, 17, 15, 8, 6]),
  (pos [16, 5, 14, 7], neg [95, 6, 15, 98]),
  (pos [97, 5, 14], neg [95, 6, 15]),
  (pos [14, 16, 18, 23, 25, 27], neg [26, 24, 17, 15, 110, 105]),
  (pos [109, 14, 16, 23, 25], neg [26, 24, 17, 15, 105]),
  (pos [16, 25, 14, 23], neg [24, 15, 108, 105]),
  (pos [107, 14, 23], neg [24, 15, 105]),
  (pos [32, 34, 36, 23, 25, 27], neg [26, 24, 120, 115, 35, 33]),
  (pos [32, 34, 23, 119, 25], neg [26, 24, 115, 35, 33]),
  (pos [32, 25, 34, 23], neg [24, 118, 115, 33]),
  (pos [32, 117, 23], neg [24, 115, 33]),
  (pos [32, 34, 36, 41, 43, 45], neg [125, 44, 42, 35, 130, 33]),
  (pos [32, 129, 34, 41, 43], neg [125, 44, 42, 35, 33]),
  (pos [32, 41, 34, 43], neg [128, 125, 42, 33]),
  (pos [32, 41, 127], neg [125, 42, 33]),
  (pos [41, 43, 45, 50, 52, 54], neg [53, 51, 44, 140, 42, 135]),
  (pos [41, 43, 139, 50, 52], neg [53, 51, 44, 42, 135]),
  (pos [41, 50, 43, 52], neg [135, 138, 51, 42]),
  (pos [41, 50, 137], neg [135, 51, 42]),
  (pos [50, 52, 54, 59, 61, 63], neg [62, 60, 150, 53, 51, 145]),
  (pos [50, 52, 149, 59, 61], neg [62, 60, 53, 51, 145]),
  (pos [50, 59, 52, 61], neg [148, 60, 51, 145]),
  (pos [50, 59, 147], neg [60, 51, 145]),
  (pos [68, 70, 72, 59, 61, 63], neg [160, 62, 60, 155, 71, 69]),
  (pos [68, 70, 59, 61, 159], neg [62, 60, 155, 71, 69]),
  (pos [59, 68, 61, 70], neg [158, 69, 60, 155]),
  (pos [59, 68, 157], neg [69, 60, 155]),
  (pos [68, 70, 72, 77, 79, 81], neg [69, 80, 78, 170, 71, 165]),
  (pos [68, 70, 169, 77, 79], neg [69, 80, 78, 71, 165]),
  (pos [68, 77, 70, 79], neg [168, 78, 165, 69]),
  (pos [68, 77, 167], neg [78, 165, 69]),
  (pos [77, 79, 81, 86, 88, 90], neg [89, 87, 180, 80, 175, 78]),
  (pos [77, 79, 179, 86, 88], neg [89, 87, 80, 175, 78]),
  (pos [88, 77, 86, 79], neg [175, 78, 87, 178]),
  (pos [177, 77, 86], neg [175, 78, 87]),
  (pos [4, 100, 6, 8, 13, 15, 17], neg [94, 18, 16, 14, 9, 7, 5]),
  (pos [4, 6, 8, 13, 15, 17], neg [94, 16, 14, 7, 5, 99]),
  (pos [98, 4, 6, 13, 15], neg [94, 16, 14, 7, 5]),
  (pos [4, 13, 6, 15], neg [14, 94, 5, 97]),
  (pos [96, 4, 13], neg [14, 94, 5]),
  (pos [13, 110, 15, 17, 22, 24, 26], neg [27, 25, 23, 18, 16, 14, 104]),
  (pos [13, 15, 17, 22, 24, 26], neg [25, 23, 16, 14, 109, 104]),
  (pos [108, 13, 15, 22, 24], neg [25, 23, 16, 14, 104]),
  (pos [24, 13, 22, 15], neg [104, 23, 14, 107]),
  (pos [106, 13, 22], neg [104, 23, 14]),
  (pos [33, 35, 22, 24, 26, 120, 31], neg [32, 27, 25, 23, 114, 36, 34]),
  (pos [33, 35, 22, 24, 26, 31], neg [32, 25, 23, 119, 114, 34]),
  (pos [33, 118, 22, 24, 31], neg [32, 25, 23, 114, 34]),
  (pos [24, 33, 22, 31], neg [32, 23, 117, 114]),
  (pos [116, 22, 31], neg [32, 23, 114]),
  (pos [33, 130, 35, 40, 42, 44, 31], neg [32, 124, 45, 43, 41, 36, 34]),
  (pos [33, 35, 40, 42, 44, 31], neg [32, 124, 43, 41, 34, 129]),
  (pos [128, 33, 40, 42, 31], neg [32, 124, 43, 41, 34]),
  (pos [40, 33, 42, 31], neg [32, 127, 124, 41]),
  (pos [40, 126, 31], neg [32, 124, 41]),
  (pos [40, 42, 44, 140, 49, 51, 53], neg [54, 52, 50, 45, 43, 41, 134]),
  (pos [40, 42, 44, 49, 51, 53], neg [52, 50, 43, 139, 41, 134]),
  (pos [40, 42, 138, 49, 51], neg [52, 50, 43, 41, 134]),
  (pos [40, 49, 42, 51], neg [134, 137, 50, 41]),
  (pos [40, 49, 136], neg [134, 50, 41]),
  (pos [49, 51, 53, 150, 58, 60, 62], neg [63, 61, 59, 54, 52, 50, 144]),
  (pos [49, 51, 53, 58, 60, 62], neg [61, 59, 149, 52, 50, 144]),
  (pos [49, 51, 148, 58, 60], neg [61, 59, 52, 50, 144]),
  (pos [49, 58, 51, 60], neg [144, 147, 59, 50]),
  (pos [49, 58, 146], neg [144, 59, 50]),
  (pos [160, 67, 69, 71, 58, 60, 62], neg [63, 61, 59, 154, 72, 70, 68]),
  (pos [67, 69, 71, 58, 60, 62], neg [159, 61, 59, 154, 70, 68]),
  (pos [67, 69, 58, 60, 158], neg [61, 59, 154, 70, 68]),
  (pos [58, 67, 60, 69], neg [157, 68, 59, 154]),
  (pos [58, 67, 156], neg [68, 59, 154]),
  (pos [67, 69, 71, 170, 76, 78, 80], neg [164, 81, 79, 77, 72, 70, 68]),
  (pos [67, 69, 71, 76, 78, 80], neg [164, 79, 77, 169, 70, 68]),
  (pos [67, 69, 168, 76, 78], neg [164, 79, 77, 70, 68]),
  (pos [67, 76, 69, 78], neg [167, 68, 77, 164]),
  (pos [67, 76, 166], neg [68, 77, 164]),
  (pos [76, 78, 80, 180, 85, 87, 89], neg [90, 88, 86, 81, 79, 174, 77]),
  (pos [76, 78, 80, 85, 87, 89], neg [88, 86, 179, 79, 174, 77]),
  (pos [76, 78, 178, 85, 87], neg [88, 86, 79, 174, 77]),
  (pos [76, 85, 78, 87], neg [86, 174, 77, 177]),
  (pos [176, 76, 85], neg [86, 174, 77]),
  (pos [3, 5, 7, 9, 12, 14, 16, 18], neg [93, 100, 17, 15, 13, 8, 6, 4]),
  (pos [3, 99, 5, 7, 12, 14, 16], neg [93, 17, 15, 13, 8, 6, 4]),
  (pos [3, 5, 7, 12, 14, 16], neg [93, 15, 13, 6, 4, 98]),
  (pos [97, 3, 5, 12, 14], neg [93, 15, 13, 6, 4]),
  (pos [3, 12, 5, 14], neg [96, 93, 4, 13]),
  (pos [3, 12, 95], neg [93, 4, 13]),
  (pos [12, 14, 16, 18, 21, 23, 25, 27], neg [26, 24, 22, 17, 15, 110, 13, 103]),
  (pos [12, 109, 14, 16, 21, 23, 25], neg [26, 24, 22, 17, 15, 13, 103]),
  (pos [12, 14, 16, 21, 23, 25], neg [24, 22, 15, 13, 108, 103]),
  (pos [107, 12, 14, 21, 23], neg [24, 22, 15, 13, 103]),
  (pos [12, 21, 14, 23], neg [103, 22, 13, 106]),
  (pos [105, 12, 21], neg [103, 22, 13]),
  (pos [32, 34, 36, 21, 23, 25, 27, 30], neg [31, 26, 24, 120, 22, 113, 35, 33]),
  (pos [32, 34, 119, 21, 23, 25, 30], neg [31, 26, 24, 22, 113, 35, 33]),
  (pos [32, 34, 21, 23, 25, 30], neg [31, 24, 22, 118, 113, 33]),
  (pos [32, 117, 21, 23, 30], neg [31, 24, 22, 113, 33]),
  (pos [32, 21, 30, 23], neg [31, 22, 116, 113]),
  (pos [115, 21, 30], neg [31, 22, 113]),
  (pos [32, 34, 36, 39, 41, 43, 45, 30], neg [31, 123, 44, 42, 40, 35, 130, 33]),
  (pos [32, 129, 34, 39, 41, 43, 30], neg [31, 123, 44, 42, 40, 35, 33]),
  (pos [32, 34, 39, 41, 43, 30], neg [128, 31, 123, 42, 40, 33]),
  (pos [32, 39, 41, 30, 127], neg [31, 123, 42, 40, 33]),
  (pos [32, 41, 30, 39], neg [40, 31, 126, 123]),
  (pos [125, 30, 39], neg [40, 31, 123]),
  (pos [39, 41, 43, 45, 48, 50, 52, 54], neg [53, 51, 49, 44, 140, 42, 40, 133]),
  (pos [39, 41, 43, 139, 48, 50, 52], neg [53, 51, 49, 44, 42, 40, 133]),
  (pos [39, 41, 43, 48, 50, 52], neg [51, 49, 42, 138, 40, 133]),
  (pos [39, 41, 137, 48, 50], neg [51, 49, 42, 40, 133]),
  (pos [48, 41, 50, 39], neg [40, 133, 136, 49]),
  (pos [48, 135, 39], neg [40, 133, 49]),
  (pos [48, 50, 52, 54, 57, 59, 61, 63], neg [62, 60, 58, 150, 53, 51, 49, 143]),
  (pos [48, 50, 52, 149, 57, 59, 61], neg [62, 60, 58, 53, 51, 49, 143]),
  (pos [48, 50, 52, 57, 59, 61], neg [60, 58, 148, 51, 49, 143]),
  (pos [48, 50, 147, 57, 59], neg [60, 58, 51, 49, 143]),
  (pos [48, 57, 50, 59], neg [143, 146, 58, 49]),
  (pos [48, 57, 145], neg [143, 58, 49]),
  (pos [66, 68, 70, 72, 57, 59, 61, 63], neg [160, 62, 60, 58, 153, 71, 69, 67]),
  (pos [66, 68, 70, 57, 59, 61, 159], neg [62, 60, 58, 153, 71, 69, 67]),
  (pos [66, 68, 70, 57, 59, 61], neg [158, 60, 58, 153, 69, 67]),
  (pos [66, 68, 57, 59, 157], neg [60, 58, 153, 69, 67]),
  (pos [57, 66, 59, 68], neg [156, 67, 58, 153]),
  (pos [57, 66, 155], neg [67, 58, 153]),
  (pos [66, 68, 70, 72, 75, 77, 79, 81], neg [67, 80, 78, 76, 170, 71, 69, 163]),
  (pos [66, 68, 70, 169, 75, 77, 79], neg [67, 80, 78, 76, 71, 69, 163]),
  (pos [66, 68, 70, 75, 77, 79], neg [67, 78, 76, 168, 69, 163]),
  (pos [66, 68, 167, 75, 77], neg [67, 78, 76, 69, 163]),
  (pos [66, 75, 68, 77], neg [166, 76, 163, 67]),
  (pos [66, 75, 165], neg [76, 163, 67]),
  (pos [75, 77, 79, 81, 84, 86, 88, 90], neg [89, 87, 85, 180, 80, 78, 173, 76]),
  (pos [75, 77, 79, 179, 84, 86, 88], neg [89, 87, 85, 80, 78, 173, 76]),
  (pos [75, 77, 79, 84, 86, 88], neg [87, 85, 178, 78, 173, 76]),
  (pos [75, 77, 177, 84, 86], neg [87, 85, 78, 173, 76]),
  (pos [75, 84, 77, 86], neg [176, 173, 76, 85]),
  (pos [75, 84, 175], neg [173, 76, 85]),
  (pos [2, 4, 100, 6, 8, 11, 13, 15, 17], neg [92, 18, 16, 14, 12, 9, 7, 5, 3]),
  (pos [2, 4, 6, 8, 11, 13, 15, 17], neg [92, 99, 16, 14, 12, 7, 5, 3]),
  (pos [2, 98, 4, 6, 11, 13, 15], neg [92, 16, 14, 12, 7, 5, 3]),
  (pos [2, 4, 6, 11, 13, 15], neg [92, 14, 12, 5, 3, 97]),
  (pos [96, 2, 4, 11, 13], neg [92, 14, 12, 5, 3]),
  (pos [2, 11, 4, 13], neg [95, 12, 92, 3]),
  (pos [2, 11, 94], neg [12, 92, 3]),
  (pos [11, 13, 110, 15, 17, 20, 22, 24, 26], neg [27, 25, 23, 21, 18, 16, 14, 12, 102]),
  (pos [11, 13, 15, 17, 20, 22, 24, 26], neg [25, 23, 21, 16, 14, 109, 12, 102]),
  (pos [11, 108, 13, 15, 20, 22, 24], neg [25, 23, 21, 16, 14, 12, 102]),
  (pos [11, 13, 15, 20, 22, 24], neg [23, 21, 14, 12, 107, 102]),
  (pos [106, 11, 13, 20, 22], neg [23, 21, 14, 12, 102]),
  (pos [11, 20, 13, 22], neg [102, 21, 12, 105]),
  (pos [104, 11, 20], neg [102, 21, 12]),
  (pos [33, 35, 20, 22, 24, 26, 120, 29, 31], neg [32, 30, 27, 25, 23, 21, 112, 36, 34]),
  (pos [33, 35, 20, 22, 24, 26, 29, 31], neg [32, 30, 25, 23, 119, 21, 112, 34]),
  (pos [33, 20, 22, 118, 24, 29, 31], neg [32, 30, 25, 23, 21, 112, 34]),
  (pos [33, 20, 22, 24, 29, 31], neg [32, 30, 23, 21, 117, 112]),
  (pos [116, 20, 22, 29, 31], neg [32, 30, 23, 21, 112]),
  (pos [20, 29, 22, 31], neg [112, 30, 21, 115]),
  (pos [114, 20, 29], neg [112, 30, 21]),
  (pos [33, 130, 35, 38, 40, 42, 44, 29, 31], neg [32, 30, 122, 45, 43, 41, 39, 36, 34]),
  (pos [33, 35, 38, 40, 42, 44, 29, 31], neg [32, 30, 122, 43, 41, 39, 34, 129]),
  (pos [128, 33, 38, 40, 42, 29, 31], neg [32, 30, 122, 43, 41, 39, 34]),
  (pos [33, 38, 40, 42, 29, 31], neg [32, 127, 30, 122, 41, 39]),
  (pos [38, 40, 29, 126, 31], neg [32, 30, 122, 41, 39]),
  (pos [40, 29, 38, 31], neg [39, 30, 125, 122]),
  (pos [124, 29, 38], neg [39, 30, 122]),
  (pos [38, 40, 42, 44, 140, 47, 49, 51, 53], neg [54, 52, 50, 48, 45, 43, 41, 39, 132]),
  (pos [38, 40, 42, 44, 47, 49, 51, 53], neg [52, 50, 48, 43, 139, 41, 39, 132]),
  (pos [38, 40, 42, 138, 47, 49, 51], neg [52, 50, 48, 43, 41, 39, 132]),
  (pos [38, 40, 42, 47, 49, 51], neg [50, 137, 48, 41, 39, 132]),
  (pos [38, 40, 136, 47, 49], neg [50, 48, 41, 39, 132]),
  (pos [40, 49, 38, 47], neg [48, 39, 132, 135]),
  (pos [134, 38, 47], neg [48, 39, 132]),
  (pos [47, 49, 51, 53, 150, 56, 58, 60, 62], neg [63, 61, 59, 57, 54, 52, 50, 48, 142]),
  (pos [47, 49, 51, 53, 56, 58, 60, 62], neg [61, 59, 57, 149, 52, 50, 48, 142]),
  (pos [47, 49, 51, 148, 56, 58, 60], neg [61, 59, 57, 52, 50, 48, 142]),
  (pos [47, 49, 51, 56, 58, 60], neg [59, 57, 147, 50, 48, 142]),
  (pos [47, 49, 146, 56, 58], neg [59, 57, 50, 48, 142]),
  (pos [56, 49, 58, 47], neg [48, 142, 145, 57]),
  (pos [56, 144, 47], neg [48, 142, 57]),
  (pos [160, 65, 67, 69, 71, 56, 58, 60, 62], neg [63, 61, 59, 57, 152, 72, 70, 68, 66]),
  (pos [65, 67, 69, 71, 56, 58, 60, 62], neg [159, 61, 59, 57, 152, 70, 68, 66]),
  (pos [65, 67, 69, 56, 58, 60, 158], neg [61, 59, 57, 152, 70, 68, 66]),
  (pos [65, 67, 69, 56, 58, 60], neg [157, 59, 57, 152, 68, 66]),
  (pos [65, 67, 56, 58, 156], neg [59, 57, 152, 68, 66]),
  (pos [56, 65, 58, 67], neg [152, 155, 66, 57]),
  (pos [56, 65, 154], neg [152, 66, 57]),
  (pos [65, 67, 69, 71, 74, 170, 76, 78, 80], neg [81, 162, 79, 77, 75, 72, 70, 68, 66]),
  (pos [65, 67, 69, 71, 74, 76, 78, 80], neg [162, 79, 77, 75, 169, 70, 68, 66]),
  (pos [65, 67, 69, 168, 74, 76, 78], neg [162, 79, 77, 75, 70, 68, 66]),
  (pos [65, 67, 69, 74, 76, 78], neg [162, 77, 75, 167, 68, 66]),
  (pos [65, 67, 166, 74, 76], neg [162, 77, 75, 68, 66]),
  (pos [65, 74, 67, 76], neg [165, 66, 75, 162]),
  (pos [65, 74, 164], neg [66, 75, 162]),
  (pos [74, 76, 78, 80, 83, 180, 85, 87, 89], neg [90, 88, 86, 84, 81, 79, 77, 172, 75]),
  (pos [74, 76, 78, 80, 83, 85, 87, 89], neg [88, 86, 84, 179, 79, 77, 172, 75]),
  (pos [74, 76, 78, 178, 83, 85, 87], neg [88, 86, 84, 79, 77, 172, 75]),
  (pos [74, 76, 78, 83, 85, 87], neg [86, 84, 177, 77, 172, 75]),
  (pos [74, 76, 176, 83, 85], neg [86, 84, 77, 172, 75]),
  (pos [74, 83, 76, 85], neg [175, 84, 172, 75]),
  (pos [74, 83, 174], neg [84, 172, 75]),
  (pos [1, 3, 5, 7, 9, 10, 12, 14, 16, 18], neg [91, 100, 17, 15, 13, 11, 8, 6, 4, 2]),
  (pos [1, 3, 99, 5, 7, 10, 12, 14, 16], neg [91, 17, 15, 13, 11, 8, 6, 4, 2]),
  (pos [1, 3, 5, 7, 10, 12, 14, 16], neg [91, 15, 13, 98, 11, 6, 4, 2]),
  (pos [1, 97, 3, 5, 10, 12, 14], neg [91, 15, 13, 11, 6, 4, 2]),
  (pos [1, 3, 5, 10, 12, 14], neg [96, 91, 13, 11, 4, 2]),
  (pos [1, 3, 10, 12, 95], neg [91, 13, 11, 4, 2]),
  (pos [1, 10, 3, 12], neg [11, 94, 91, 2]),
  (pos [1, 10, 93], neg [11, 91, 2]),
  (pos [10, 12, 14, 16, 18, 19, 21, 23, 25, 27], neg [26, 24, 22, 20, 17, 15, 110, 13, 11, 101]),
  (pos [10, 12, 109, 14, 16, 19, 21, 23, 25], neg [26, 24, 22, 20, 17, 15, 13, 11, 101]),
  (pos [10, 12, 14, 16, 19, 21, 23, 25], neg [24, 22, 20, 15, 13, 108, 11, 101]),
  (pos [10, 107, 12, 14, 19, 21, 23], neg [24, 22, 20, 15, 13, 11, 101]),
  (pos [10, 12, 14, 19, 21, 23], neg [22, 20, 13, 11, 106, 101]),
  (pos [105, 10, 12, 19, 21], neg [22, 20, 13, 11, 101]),
  (pos [10, 19, 12, 21], neg [104, 101, 20, 11]),
  (pos [10, 19, 103], neg [101, 20, 11]),
  (pos [32, 34, 36, 19, 21, 23, 25, 27, 28, 30], neg [31, 29, 26, 24, 120, 22, 20, 111, 35, 33]),
  (pos [32, 34, 19, 119, 21, 23, 25, 28, 30], neg [31, 29, 26, 24, 22, 20, 111, 35, 33]),
  (pos [32, 34, 19, 21, 23, 25, 28, 30], neg [31, 29, 24, 22, 118, 20, 111, 33]),
  (pos [32, 19, 21, 117, 23, 28, 30], neg [31, 29, 24, 22, 20, 111, 33]),
  (pos [32, 19, 21, 23, 28, 30], neg [31, 29, 22, 20, 116, 111]),
  (pos [115, 19, 21, 28, 30], neg [31, 29, 22, 20, 111]),
  (pos [19, 28, 21, 30], neg [111, 29, 20, 114]),
  (pos [113, 19, 28], neg [111, 29, 20]),
  (pos [32, 34, 36, 37, 39, 41, 43, 45, 28, 30], neg [31, 29, 121, 44, 42, 40, 38, 35, 130, 33]),
  (pos [32, 129, 34, 37, 39, 41, 43, 28, 30], neg [31, 29, 121, 44, 42, 40, 38, 35, 33]),
  (pos [32, 34, 37, 39, 41, 43, 28, 30], neg [128, 31, 29, 121, 42, 40, 38, 33]),
  (pos [32, 37, 39, 41, 28, 30, 127], neg [31, 29, 121, 42, 40, 38, 33]),
  (pos [32, 37, 39, 41, 28, 30], neg [31, 126, 29, 121, 40, 38]),
  (pos [37, 39, 28, 125, 30], neg [31, 29, 121, 40, 38]),
  (pos [28, 37, 30, 39], neg [38, 29, 124, 121]),
  (pos [123, 28, 37], neg [38, 29, 121]),
  (pos [37, 39, 41, 43, 45, 46, 48, 50, 52, 54], neg [53, 51, 49, 47, 44, 140, 42, 40, 38, 131]),
  (pos [37, 39, 41, 43, 139, 46, 48, 50, 52], neg [53, 51, 49, 47, 44, 42, 40, 38, 131]),
  (pos [37, 39, 41, 43, 46, 48, 50, 52], neg [51, 49, 47, 42, 138, 40, 38, 131]),
  (pos [37, 39, 41, 137, 46, 48, 50], neg [51, 49, 47, 42, 40, 38, 131]),
  (pos [37, 39, 41, 46, 48, 50], neg [49, 47, 136, 40, 38, 131]),
  (pos [37, 135, 39, 46, 48], neg [49, 47, 40, 38, 131]),
  (pos [48, 37, 46, 39], neg [47, 38, 131, 134]),
  (pos [37, 46, 133], neg [47, 38, 131]),
  (pos [46, 48, 50, 52, 54, 55, 57, 59, 61, 63], neg [62, 60, 58, 56, 150, 53, 51, 49, 47, 141]),
  (pos [46, 48, 50, 52, 149, 55, 57, 59, 61], neg [62, 60, 58, 56, 53, 51, 49, 47, 141]),
  (pos [46, 48, 50, 52, 55, 57, 59, 61], neg [60, 58, 56, 148, 51, 49, 47, 141]),
  (pos [46, 48, 50, 147, 55, 57, 59], neg [60, 58, 56, 51, 49, 47, 141]),
  (pos [46, 48, 50, 55, 57, 59], neg [58, 56, 146, 49, 47, 141]),
  (pos [46, 48, 145, 55, 57], neg [58, 56, 49, 47, 141]),
  (pos [48, 57, 46, 55], neg [56, 47, 141, 144]),
  (pos [143, 46, 55], neg [56, 47, 141]),
  (pos [64, 66, 68, 70, 72, 55, 57, 59, 61, 63], neg [160, 62, 60, 58, 56, 151, 71, 69, 67, 65]),
  (pos [64, 66, 68, 70, 55, 57, 59, 61, 159], neg [62, 60, 58, 56, 151, 71, 69, 67, 65]),
  (pos [64, 66, 68, 70, 55, 57, 59, 61], neg [158, 60, 58, 56, 151, 69, 67, 65]),
  (pos [64, 66, 68, 55, 57, 59, 157], neg [60, 58, 56, 151, 69, 67, 65]),
  (pos [64, 66, 68, 55, 57, 59], neg [156, 58, 56, 151, 67, 65]),
  (pos [64, 66, 55, 57, 155], neg [58, 56, 151, 67, 65]),
  (pos [64, 57, 66, 55], neg [56, 151, 154, 65]),
  (pos [64, 153, 55], neg [56, 151, 65]),
  (pos [64, 66, 68, 70, 72, 73, 75, 77, 79, 81], neg [80, 78, 76, 74, 161, 170, 71, 69, 67, 65]),
  (pos [64, 66, 68, 70, 73, 169, 75, 77, 79], neg [80, 78, 76, 74, 161, 71, 69, 67, 65]),
  (pos [64, 66, 68, 70, 73, 75, 77, 79], neg [78, 76, 74, 161, 168, 69, 67, 65]),
  (pos [64, 66, 68, 167, 73, 75, 77], neg [78, 76, 74, 161, 69, 67, 65]),
  (pos [64, 66, 68, 73, 75, 77], neg [76, 74, 161, 166, 67, 65]),
  (pos [64, 66, 165, 73, 75], neg [76, 74, 161, 67, 65]),
  (pos [64, 73, 66, 75], neg [65, 164, 74, 161]),
  (pos [64, 73, 163], neg [65, 74, 161]),
  (pos [73, 75, 77, 79, 81, 82, 84, 86, 88, 90], neg [89, 87, 85, 180, 83, 80, 78, 76, 171, 74]),
  (pos [73, 75, 77, 79, 82, 179, 84, 86, 88], neg [89, 87, 85, 83, 80, 78, 76, 171, 74]),
  (pos [73, 75, 77, 79, 82, 84, 86, 88], neg [87, 85, 83, 178, 78, 76, 171, 74]),
  (pos [73, 75, 77, 177, 82, 84, 86], neg [87, 85, 83, 78, 76, 171, 74]),
  (pos [73, 75, 77, 82, 84, 86], neg [85, 83, 176, 76, 171, 74]),
  (pos [73, 75, 175, 82, 84], neg [85, 83, 76, 171, 74]),
  (pos [73, 82, 75, 84], neg [174, 171, 74, 83]),
  (pos [73, 82, 173], neg [171, 74, 83])]

end cautical
