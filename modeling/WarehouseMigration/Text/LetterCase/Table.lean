/-!
# Letter-case data

The case mappings of the Unicode character database, as ranges of code points.  A range `(first, last, step, shift)`
maps `first, first + step, …, last` by adding `shift`.  Mappings to more than one character are listed one by one.
-/

namespace WarehouseMigration.Text.LetterCase

def alone (c : Nat × Int) : Nat × Nat × Nat × Int := (c.1, c.1, 1, c.2)

def lowerRanges : List (Nat × Nat × Nat × Int) :=
  [(65, 90, 1, 32), (192, 214, 1, 32), (216, 222, 1, 32), (393, 394, 1, 205), (433, 434, 1, 217), (904, 906, 1, 37),
   (910, 911, 1, 63), (913, 929, 1, 32), (931, 939, 1, 32), (1021, 1023, 1, -130), (1024, 1039, 1, 80),
   (1040, 1071, 1, 32), (1329, 1366, 1, 48), (4256, 4293, 1, 7264), (5024, 5103, 1, 38864), (5104, 5109, 1, 8),
   (7312, 7354, 1, -3008), (7357, 7359, 1, -3008), (7944, 7951, 1, -8), (7960, 7965, 1, -8), (7976, 7983, 1, -8),
   (7992, 7999, 1, -8), (8008, 8013, 1, -8), (8025, 8031, 2, -8), (8040, 8047, 1, -8), (8072, 8079, 1, -8),
   (8088, 8095, 1, -8), (8104, 8111, 1, -8), (8120, 8121, 1, -8), (8122, 8123, 1, -74), (8136, 8139, 1, -86),
   (8152, 8153, 1, -8), (8154, 8155, 1, -100), (8168, 8169, 1, -8), (8170, 8171, 1, -112), (8184, 8185, 1, -128),
   (8186, 8187, 1, -126), (8544, 8559, 1, 16), (9398, 9423, 1, 26), (11264, 11311, 1, 48), (11390, 11391, 1, -10815),
   (65313, 65338, 1, 32), (66560, 66599, 1, 40), (66736, 66771, 1, 40), (66928, 66938, 1, 39), (66940, 66954, 1, 39),
   (66956, 66962, 1, 39), (66964, 66965, 1, 39), (68736, 68786, 1, 64), (71840, 71871, 1, 32), (93760, 93791, 1, 32),
   (125184, 125217, 1, 34)] ++
  [(376, -121), (385, 210), (390, 206), (391, 1), (395, 1), (398, 79), (399, 202), (400, 203), (401, 1), (403, 205),
   (404, 207), (406, 211), (407, 209), (408, 1), (412, 211), (413, 213), (415, 214), (422, 218), (423, 1), (425, 218),
   (428, 1), (430, 218), (431, 1), (439, 219), (440, 1), (444, 1), (452, 2), (453, 1), (455, 2), (456, 1), (458, 2),
   (497, 2), (502, -97), (503, -56), (544, -130), (570, 10795), (571, 1), (573, -163), (574, 10792), (577, 1),
   (579, -195), (580, 69), (581, 71), (886, 1), (895, 116), (902, 38), (908, 64), (975, 8), (1012, -60), (1015, 1),
   (1017, -7), (1018, 1), (1216, 15), (4295, 7264), (4301, 7264), (7838, -7615), (8124, -9), (8140, -9), (8172, -7),
   (8188, -9), (8486, -7517), (8490, -8383), (8491, -8262), (8498, 28), (8579, 1), (11360, 1), (11362, -10743),
   (11363, -3814), (11364, -10727), (11373, -10780), (11374, -10749), (11375, -10783), (11376, -10782), (11378, 1),
   (11381, 1), (11506, 1), (42877, -35332), (42891, 1), (42893, -42280), (42922, -42308), (42923, -42319),
   (42924, -42315), (42925, -42305), (42926, -42308), (42928, -42258), (42929, -42282), (42930, -42261), (42931, 928),
   (42948, -48), (42949, -42307), (42950, -35384), (42960, 1), (42997, 1)].map alone ++
  [(256, 302), (306, 310), (313, 327), (330, 374), (377, 381), (386, 388), (416, 420), (435, 437), (459, 475),
   (478, 494), (498, 500), (504, 542), (546, 562), (582, 590), (880, 882), (984, 1006), (1120, 1152), (1162, 1214),
   (1217, 1229), (1232, 1326), (7680, 7828), (7840, 7934), (11367, 11371), (11392, 11490), (11499, 11501),
   (42560, 42604), (42624, 42650), (42786, 42798), (42802, 42862), (42873, 42875), (42878, 42886), (42896, 42898),
   (42902, 42920), (42932, 42946), (42951, 42953), (42966, 42968)].map fun (first, last) => (first, last, 2, 1)

/-- Code points with a one-character upper-case form: the letters that share one with another letter, or have one that
is not a capital, and the lower-case forms of the capitals. -/
def upperRanges : List (Nat × Nat × Nat × Int) :=
  [(181, 743), (305, -232), (383, -300), (453, -1), (456, -1), (459, -1), (498, -1), (837, 84), (962, -31), (976, -62),
   (977, -57), (981, -47), (982, -54), (1008, -86), (1009, -80), (1013, -96), (7296, -6254), (7297, -6253),
   (7298, -6244), (7301, -6243), (7302, -6236), (7303, -6181), (7304, 35266), (7835, -59), (8126, -7205)].map alone ++
  [(7299, 7300, 1, -6242)] ++
  lowerRanges.map fun (first, last, step, shift) =>
    ((first + shift).toNat, (last + shift).toNat, step, -shift)

def lowerExpansions : List (Nat × List Nat) :=
  [(304, [105, 775])]

def upperExpansions : List (Nat × List Nat) :=
  [(223, [83, 83]), (329, [700, 78]), (496, [74, 780]), (912, [921, 776, 769]), (944, [933, 776, 769]),
   (1415, [1333, 1362]), (7830, [72, 817]), (7831, [84, 776]), (7832, [87, 778]), (7833, [89, 778]),
   (7834, [65, 702]), (8016, [933, 787]), (8018, [933, 787, 768]), (8020, [933, 787, 769]),
   (8022, [933, 787, 834])] ++
    [(8064, 7944), (8080, 7976), (8096, 8040)].flatMap (fun (first, image) =>
      (List.range' first 16).map fun n => (n, [image + n % 8, 921])) ++
  [(8114, [8122, 921]), (8115, [913, 921]), (8116, [902, 921]), (8118, [913, 834]), (8119, [913, 834, 921]),
   (8124, [913, 921]), (8130, [8138, 921]), (8131, [919, 921]), (8132, [905, 921]), (8134, [919, 834]),
   (8135, [919, 834, 921]), (8140, [919, 921]), (8146, [921, 776, 768]), (8147, [921, 776, 769]), (8150, [921, 834]),
   (8151, [921, 776, 834]), (8162, [933, 776, 768]), (8163, [933, 776, 769]), (8164, [929, 787]), (8166, [933, 834]),
   (8167, [933, 776, 834]), (8178, [8186, 921]), (8179, [937, 921]), (8180, [911, 921]), (8182, [937, 834]),
   (8183, [937, 834, 921]), (8188, [937, 921]), (64256, [70, 70]), (64257, [70, 73]), (64258, [70, 76]),
   (64259, [70, 70, 73]), (64260, [70, 70, 76]), (64261, [83, 84]), (64262, [83, 84]), (64275, [1348, 1350]),
   (64276, [1348, 1333]), (64277, [1348, 1339]), (64278, [1358, 1350]), (64279, [1348, 1341])]

def titleExceptions : List (Nat × List Nat) :=
  [(223, [83, 115]), (452, [453]), (453, [453]), (454, [453]), (455, [456]), (456, [456]), (457, [456]),
   (458, [459]), (459, [459]), (460, [459]), (497, [498]), (498, [498]), (499, [498]), (1415, [1333, 1410])] ++
    (List.range' 4304 43 ++ List.range' 4349 3).map (fun n => (n, [n])) ++
    (List.range' 8064 48).map (fun n => (n, [n ||| 8])) ++
  [(8114, [8122, 837]), (8115, [8124]),
   (8116, [902, 837]), (8119, [913, 834, 837]), (8124, [8124]), (8130, [8138, 837]), (8131, [8140]),
   (8132, [905, 837]), (8135, [919, 834, 837]), (8140, [8140]), (8178, [8186, 837]), (8179, [8188]),
   (8180, [911, 837]), (8183, [937, 834, 837]), (8188, [8188]), (64256, [70, 102]), (64257, [70, 105]),
   (64258, [70, 108]), (64259, [70, 102, 105]), (64260, [70, 102, 108]), (64261, [83, 116]), (64262, [83, 116]),
   (64275, [1348, 1398]), (64276, [1348, 1381]), (64277, [1348, 1387]), (64278, [1358, 1398]),
   (64279, [1348, 1389])]

def casedRuns : List Nat :=
  [65,26,6,26,47,1,10,1,4,1,5,23,1,31,1,195,1,4,4,208,1,27,192,4,2,2,3,3,1,1,6,1,1,3,1,1,1,20,1,83,1,139,8,166,1,38,9,
   41,2839,38,1,1,5,1,2,43,2,3,672,86,2,6,2178,9,7,43,2,3,64,44,63,13,1,34,101,278,2,6,2,38,2,6,2,8,1,1,1,1,1,1,1,31,
   2,53,1,7,1,1,3,3,1,7,3,4,2,6,4,13,5,3,1,7,261,1,4,1,2,10,1,1,3,5,6,1,1,1,1,1,1,4,1,6,4,1,2,4,5,5,4,1,17,32,3,2,817,
   52,1814,124,2,103,6,4,3,2,12,38,1,1,5,1,30994,46,18,28,134,78,1,23,3,4,1,59,5,2,1,1,1,5,27,2,3,1,821,43,5,9,7,80,
   20288,7,12,5,1033,26,6,26,1189,80,96,36,4,36,116,11,1,15,1,7,1,2,1,11,1,15,1,7,1,2,1731,51,13,51,2989,64,21856,64,
   25984,85,1,71,1,2,2,1,2,2,2,4,1,12,1,1,1,7,1,65,1,4,2,8,1,7,1,28,1,4,1,5,1,1,3,7,1,340,2,25,1,25,1,31,1,25,1,31,1,
   25,1,31,1,25,1,31,1,25,1,8,1844,10,1,20,2529,68,2028,26,6,26,6,26]

def ignorableRuns : List Nat :=
  [39,1,6,1,11,1,35,1,1,1,71,1,4,1,1,1,4,1,2,2,503,192,4,2,4,1,9,2,1,1,251,7,207,1,5,1,49,45,1,1,1,2,1,2,1,1,44,1,11,
   6,10,11,1,1,35,1,10,21,16,1,101,8,1,10,1,4,33,1,1,1,30,27,91,11,58,11,4,1,2,1,24,24,43,3,44,1,7,2,6,8,41,58,55,1,1,
   1,4,8,4,1,3,7,10,2,13,1,15,1,58,1,4,4,8,1,20,2,26,1,2,2,57,1,4,2,4,2,2,3,3,1,30,2,3,1,11,2,57,1,4,5,1,2,4,1,20,2,
   22,6,1,1,58,1,2,1,1,4,8,1,7,2,11,2,30,1,61,1,12,1,50,1,3,1,55,1,1,3,5,3,1,4,7,2,11,2,29,1,58,1,2,1,6,1,5,2,20,2,28,
   2,57,2,4,4,8,1,20,2,29,1,72,1,7,3,1,1,90,1,2,7,11,9,98,1,2,9,9,1,1,6,74,2,27,1,1,1,1,1,55,14,1,5,1,2,5,11,1,36,9,1,
   102,4,1,6,1,2,2,2,25,2,4,3,16,4,13,1,2,2,6,1,15,1,94,1,608,3,946,3,29,2,30,2,30,2,64,2,1,7,8,1,2,11,3,1,5,1,45,5,
   51,1,65,2,34,1,118,3,4,2,9,1,6,3,219,2,2,1,58,1,1,7,1,1,1,1,2,8,6,10,2,1,39,1,8,31,49,4,48,1,1,5,1,1,5,1,40,9,12,2,
   32,4,2,2,1,3,56,1,1,2,3,1,1,3,58,8,2,2,64,6,82,3,1,13,1,7,4,1,6,1,3,2,50,63,13,1,34,101,445,1,1,3,11,3,13,3,13,3,
   13,2,12,5,8,2,10,1,2,1,2,5,49,5,1,10,1,1,13,1,16,13,51,33,2955,2,113,3,125,1,15,1,96,32,47,1,469,1,36,4,3,5,5,1,93,
   6,93,3,28438,1,1250,6,270,1,98,4,1,10,1,1,28,4,80,2,14,34,78,1,23,3,103,3,3,2,8,1,3,1,4,1,25,2,5,1,151,2,26,18,13,
   1,38,8,25,11,46,3,48,1,2,4,2,2,17,1,21,2,66,6,2,2,2,2,12,1,8,1,35,1,11,1,51,1,1,3,2,2,5,2,1,1,27,1,14,2,5,2,1,1,
   100,5,9,3,121,1,2,1,4,1,20272,1,147,17,573,16,3,1,12,16,34,1,2,1,169,1,7,1,6,1,11,1,35,1,1,1,47,1,45,2,67,1,21,3,
   513,1,226,1,149,5,1029,6,1,42,1,9,582,3,1,2,5,4,40,3,4,1,165,2,573,4,387,2,153,11,49,4,123,1,54,15,41,1,2,2,10,3,
   49,4,2,2,2,1,4,1,10,1,50,3,36,5,1,8,62,1,12,2,52,9,10,4,2,1,95,3,2,1,1,2,6,1,160,1,3,8,21,2,57,2,3,1,37,7,3,5,195,
   8,2,3,1,1,23,1,84,6,1,1,4,2,1,2,238,4,6,2,1,2,27,2,85,8,2,1,1,2,106,1,1,1,2,6,1,1,101,3,2,4,1,5,259,9,1,2,256,2,1,
   1,4,1,144,4,2,2,4,1,32,10,40,6,2,4,8,1,9,6,2,3,46,13,1,2,406,7,1,6,1,1,82,22,2,7,1,2,1,2,122,6,3,1,1,2,1,7,1,1,72,
   2,3,1,1,1,347,2,5435,9,14007,5,59,7,9,4,1035,1,63,17,64,2,1,2,16395,4,1,7,1,2,3230,2,1,4,4700,46,2,23,544,3,9,16,2,
   7,30,4,148,3,1979,55,4,50,8,1,14,1,22,5,1,15,1360,7,1,17,2,7,1,2,1,5,261,14,368,1,61,4,1504,7,109,8,2735,5,789505,
   1,30,96,128,240]

end WarehouseMigration.Text.LetterCase
